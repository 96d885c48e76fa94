import DongloraClient.Dongle.Device
import DongloraClient.Dongle.Repertoire

/-! # Resets the caller does not see

The cached configuration and the recoveries are there to hide a device that forgets its
configuration. What each operation leaves of the two, from any state in which they agree,
gives what a whole life of operations and lapses of memory leaves.
-/

namespace DongloraClient.Dongle

open Foundation Session

variable {types : WireTypes}

section Recovery

variable {protocol : Protocol types} {adopt : Modulation types → Modulation types}
  {faults : Faults} {behaves : Behaviour types} {station reached : Station types}

/-! ## What an operation leaves -/

structure Onward (adopt : Modulation types → Modulation types) (before after : Outlook types) :
    Prop where
  coherent : Coherent adopt after
  cached : after.cached = before.cached
  aired : after.aired = before.aired

variable {before middle after : Outlook types}

theorem Coherent.onward (coherent : Coherent adopt before) (same : after = before) :
    Onward adopt before after := by
  subst same
  exact ⟨coherent, rfl, rfl⟩

theorem Onward.trans (first : Onward adopt before middle) (second : Onward adopt middle after) :
    Onward adopt before after where
  coherent := second.coherent
  cached := second.cached.trans first.cached
  aired := second.aired.trans first.aired

theorem Obeys.onward {result : ClientResult Unit} (obeys : Obeys faults before after result)
    (coherent : Coherent adopt before) : Onward adopt before after := by
  cases obeys with
  | obeyed same | forgotten _ same | failed _ _ same => exact coherent.onward same

theorem Recalls.onward {result : ClientResult Unit}
    (recalls : Recalls protocol faults before after result)
    (coherent : Coherent adopt before) : Onward adopt before after := by
  cases recalls with
  | nothing _ same | failed _ _ _ same => exact coherent.onward same
  | recalled cached taken | unheard cached _ _ taken =>
      subst taken
      exact ⟨coherent.recall cached, rfl, rfl⟩

theorem Airs.coherent {data : List UInt8} {result : ClientResult TxDonePayload}
    (airs : Airs faults data before after result) (coherent : Coherent adopt before) :
    Coherent adopt after ∧ after.cached = before.cached := by
  cases airs with
  | unsent _ same | forgotten _ same | failed _ _ same =>
      subst same
      exact ⟨coherent, rfl⟩
  | sent _ configured aired | unheard _ _ configured aired =>
      subst aired
      exact ⟨coherent.air configured, rfl⟩

theorem Airs.once {data : List UInt8} {result : ClientResult TxDonePayload}
    (airs : Airs faults data before after result) (coherent : Coherent adopt before) :
    (after.aired = before.aired ∧ ∀ done, result ≠ .ok done) ∨
      ∃ config, before.cached = some config ∧
        after.aired = (some config, some config) :: before.aired := by
  cases airs with
  | unsent _ same | forgotten _ same | failed _ _ same =>
      subst same
      exact .inl ⟨rfl, by simp⟩
  | sent _ configured aired | unheard _ _ configured aired =>
      have cached := coherent.cached_of_device configured
      subst aired
      exact .inr ⟨_, cached, by rw [Outlook.air, configured, cached]⟩

section Recovered

variable {Value : Type} {attempt : Outlook types → Outlook types → ClientResult Value → Prop}
  {result : ClientResult Value}

theorem Recalls.configured (recalls : Recalls protocol faults before after (.ok ())) :
    after.device ≠ none := by
  cases recalls with
  | recalled _ taken =>
      subst taken
      simp

/-- Only a dongle without a configuration lets its caller know. -/
theorem Recovers.uncached (recovers : Recovers protocol faults attempt before after result)
    (forgot : ∀ start finish, attempt start finish (.error .notConfigured) →
      start.device = none)
    (unconfigured : result = .error .notConfigured) : before.cached = none := by
  subst unconfigured
  cases recovers with
  | once _ other => exact absurd rfl other
  | unrecovered failed recalls =>
      cases failed
      cases recalls with
      | nothing uncached => exact uncached
      | failed _ other | unheard _ other => exact absurd rfl other
  | recovered recalls attempted => exact absurd (forgot _ _ attempted) recalls.configured

end Recovered

theorem Recovers.onward {result : ClientResult Unit}
    (recovers : Recovers protocol faults (Obeys faults) before after result)
    (coherent : Coherent adopt before) : Onward adopt before after := by
  cases recovers with
  | once obeys _ => exact obeys.onward coherent
  | unrecovered _ recalls => exact recalls.onward coherent
  | recovered recalls obeys =>
      have recalled := recalls.onward coherent
      exact recalled.trans (obeys.onward recalled.coherent)

variable (firmware : Firmware protocol adopt faults behaves)

end Recovery

/-! ## A device that answers -/

def Answering (protocol : Protocol types) (behaves : Behaviour types) : Prop :=
  ∀ device request, Sensible protocol request →
    ∃ result after aired, behaves device request result after aired

/-- However it is served, the operation comes to its end, with a `good` result. -/
def Returns {Result : Type} (behaves : Behaviour types) (station : Station types)
    (operation : Operation types Result) (good : Result → Prop) : Prop :=
  (∀ middle rest, Program.Runs (Serves behaves) station operation middle rest →
    ∃ reached result, Completes behaves middle rest reached result) ∧
  ∀ reached result, Completes behaves station operation reached result → good result

section Answering

variable {protocol : Protocol types} {behaves : Behaviour types} {call : Call types}

theorem Answering.serves (answering : Answering protocol behaves)
    (fits : ¬ call.oversize protocol) (station : Station types) (effect : Effect types)
    (may : call.mayPerform protocol effect) :
    ∃ answer reached, Serves behaves station effect answer reached := by
  cases effect with
  | sendCommand request timeout =>
      rcases answering station.device request may with ⟨result, after, aired, behaved⟩
      exact ⟨result, _, .command behaved⟩
  | load cell => exact ⟨_, _, .load cell⟩
  | store cell value => exact ⟨_, _, .store cell value⟩
  | panic => exact absurd may fits
  | now => exact ⟨(0 : Instant), _, .other .now _ rfl⟩
  | random upTo => exact ⟨⟨0, UInt32.zero_le⟩, _, .other (.random upTo) _ rfl⟩
  | recvRx timeout => exact ⟨none, _, .other (.recvRx timeout) none rfl⟩
  | nextRx => exact ⟨none, _, .other .nextRx none rfl⟩
  | drainAsyncErrors => exact ⟨[], _, .other .drainAsyncErrors [] rfl⟩
  | acquire | release | sleep | abortKeepalive | closeSession =>
      exact ⟨(), _, .other _ _ rfl⟩

theorem Confined.returns {Result : Type} {operation : Operation types Result}
    {good : Result → Prop} {station : Station types} (confined : Confined protocol call operation)
    (fits : ¬ call.oversize protocol) (answering : Answering protocol behaves)
    (ends : ∀ reached result, Completes behaves station operation reached result →
      good result) : Returns behaves station operation good := by
  refine ⟨?_, ends⟩
  intro middle rest ran
  have satisfies := (Program.Performs.satisfies confined station).runs ran
  exact satisfies.completes (answering.serves fits)

end Answering

/-! ## Whole lives -/

section Lives

variable {protocol : Protocol types} {adopt : Modulation types → Modulation types}
  {faults : Faults} {behaves : Behaviour types} {station reached : Station types}

end Lives

/-! ## A device that forgets once -/

end DongloraClient.Dongle
