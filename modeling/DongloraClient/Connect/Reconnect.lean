import DongloraClient.Connect.Agreement

/-! # Reconnecting to the same mux

Once the flag is set, `connect_with` looks for the socket at `default_socket_path`,
while the call that set the flag found it with `find_mux_socket`. The two are
compared in surroundings that stay as they are.
-/

namespace DongloraClient.Connect

open Foundation

variable {types : WireTypes}

/-- The call ends up at the mux endpoint `kind`. A TCP mux that cannot be connected
is passed over; a socket that exists is not. -/
def Selects (outcome : Option (ClientResult Unit) × Progress) (kind : TransportKind) : Prop :=
  kind.isMux = true ∧ ∃ opened, outcome.2.attempts.head? = some ⟨kind, opened⟩ ∧
    ((∃ endpoint, kind = .muxTcp endpoint) → opened = true)

/-- There is no socket where `XDG_RUNTIME_DIR` says, and one in `/tmp`. -/
def FallsBack (surroundings : Surroundings) (timeout : Duration) : Prop :=
  surroundings.TcpUnavailable timeout ∧ surroundings.var .mux = none ∧
    ∃ directory, surroundings.var .xdgRuntimeDir = some directory ∧
      surroundings.pathExists (xdgSocket directory) = false ∧
      surroundings.pathExists tmpSocket = true

section Reconnecting

variable (surroundings : Surroundings)
  (handshake : TransportKind → ConnectOptions types → Duration → Option (ClientResult Unit))
  (options : ConnectOptions types)

/-- Whatever mux a first call selects, a later call selects it too, at once. -/
def Reconnects : Prop :=
  ∀ polls kind, Selects (connectOutcome surroundings handshake options false polls) kind →
    ∀ later, Selects (connectOutcome surroundings handshake options true later) kind ∧
      (connectOutcome surroundings handshake options true later).2.sleeps = 0

end Reconnecting

/-! ## What a decision selects -/

section Selection

variable {surroundings : Surroundings}
  {handshake : TransportKind → ConnectOptions types → Duration → Option (ClientResult Unit)}
  {options : ConnectOptions types} {usedMux : Bool} {kind : TransportKind}

theorem selects_openedTcp_iff {endpoint : String}
    (reachable : surroundings.reachableTcp (options.timeout.getD defaultTimeout) =
      some endpoint) :
    Selects ((⟨true, 0, .openedTcp endpoint⟩ : Decision).outcome
        (.fixed surroundings handshake) options (.start usedMux)) kind ↔
      kind = .muxTcp endpoint := by
  have last : ((⟨true, 0, .openedTcp endpoint⟩ : Decision).outcome
      (.fixed surroundings handshake) options (.start usedMux)).2.attempts.head? =
        some ⟨.muxTcp endpoint, true⟩ := by
    rw [openedTcp_outcome handshake usedMux reachable]
    rfl
  rw [Selects, last]
  constructor
  · rintro ⟨_, opened, same, _⟩
    cases same
    rfl
  · intro same
    subst same
    exact ⟨rfl, true, rfl, fun _ => rfl⟩

/-- A socket is selected whether or not it can be connected. -/
theorem selects_unix_iff {path : String} {triesTcp : Bool} {sleeps : Nat} :
    Selects ((⟨triesTcp, sleeps, .unix path⟩ : Decision).outcome
        (.fixed surroundings handshake) options (.start usedMux)) kind ↔
      kind = .muxUnix path := by
  have last : ∃ opened, ((⟨triesTcp, sleeps, .unix path⟩ : Decision).outcome
      (.fixed surroundings handshake) options (.start usedMux)).2.attempts.head? =
        some ⟨.muxUnix path, opened⟩ := by
    rw [Decision.outcome_eq]
    simp only [carryOut]
    split
    · exact ⟨false, rfl⟩
    · exact ⟨true, rfl⟩
  rcases last with ⟨opened, last⟩
  rw [Selects, last]
  constructor
  · rintro ⟨_, _, same, _⟩
    cases same
    rfl
  · intro same
    subst same
    refine ⟨rfl, opened, rfl, ?_⟩
    rintro ⟨endpoint, impossible⟩
    cases impossible

theorem not_selects_serial {port : String} {triesTcp : Bool} {sleeps : Nat} :
    ¬ Selects ((⟨triesTcp, sleeps, .serial port⟩ : Decision).outcome
      (.fixed surroundings handshake) options (.start usedMux)) kind := by
  rintro ⟨mux, opened, last, _⟩
  rw [Decision.outcome_eq] at last
  simp only [carryOut] at last
  split at last
  · cases last
    cases mux
  · cases last
    cases mux

theorem not_selects_waiting {triesTcp : Bool} {sleeps : Nat}
    (unreachable : surroundings.reachableTcp (options.timeout.getD defaultTimeout) = none) :
    ¬ Selects ((⟨triesTcp, sleeps, .waiting⟩ : Decision).outcome
      (.fixed surroundings handshake) options (.start usedMux)) kind := by
  rintro ⟨mux, opened, last, tcp⟩
  rw [Decision.outcome_eq] at last
  rcases Decision.mem_before (List.mem_of_head? last) with ⟨_, endpoint, same, connected⟩
  have reachable := connected (tcp ⟨endpoint, same⟩)
  rw [Environment.fixed, unreachable] at reachable
  cases reachable

theorem not_selects_awaitDevice
    (unreachable : surroundings.reachableTcp (options.timeout.getD defaultTimeout) = none)
    (polls sleeps : Nat) :
    ¬ Selects ((awaitDevice (fun _ => surroundings) polls sleeps).outcome
      (.fixed surroundings handshake) options (.start usedMux)) kind := by
  induction polls generalizing sleeps with
  | zero =>
      rw [awaitDevice]
      split
      · exact not_selects_serial
      · exact not_selects_waiting unreachable
  | succ polls induction =>
      rw [awaitDevice]
      split
      · exact not_selects_serial
      · exact induction (sleeps + 1)

theorem fresh_selects_iff (noPort : options.port = none) (polls : Nat) :
    Selects (connectOutcome surroundings handshake options false polls) kind ↔
      (∃ endpoint, surroundings.reachableTcp (options.timeout.getD defaultTimeout) =
        some endpoint ∧ kind = .muxTcp endpoint) ∨
      surroundings.reachableTcp (options.timeout.getD defaultTimeout) = none ∧
        ∃ path, surroundings.findMuxSocket = some path ∧ kind = .muxUnix path := by
  rw [connectOutcome_eq, decideConnect_fresh noPort, muxOr]
  cases reachable : surroundings.reachableTcp (options.timeout.getD defaultTimeout) with
  | some endpoint =>
      rw [selects_openedTcp_iff reachable]
      simp
  | none =>
      cases found : surroundings.findMuxSocket with
      | some path =>
          rw [selects_unix_iff]
          simp
      | none =>
          simp only [reduceCtorEq, false_and, exists_false, and_false, or_self, iff_false]
          split
          · exact not_selects_serial
          · exact not_selects_awaitDevice reachable polls 0

theorem sticky_at_present_socket (noPort : options.port = none)
    (unreachable : surroundings.reachableTcp (options.timeout.getD defaultTimeout) = none)
    (present : surroundings.pathExists surroundings.defaultSocketPath = true) (polls : Nat) :
    Selects (connectOutcome surroundings handshake options true polls)
        (.muxUnix surroundings.defaultSocketPath) ∧
      (connectOutcome surroundings handshake options true polls).2.sleeps = 0 := by
  have decided : connectOutcome surroundings handshake options true polls =
      (⟨true, 0, .unix surroundings.defaultSocketPath⟩ : Decision).outcome
        (.fixed surroundings handshake) options (.start true) := by
    rw [connectOutcome_eq, decideConnect_sticky noPort, unreachable]
    simp only
    rw [awaitSocket_present polls present]
  rw [decided]
  exact ⟨selects_unix_iff.mpr rfl, Decision.outcome_sleeps⟩

theorem sticky_at_tcp (noPort : options.port = none) {endpoint : String}
    (reachable : surroundings.reachableTcp (options.timeout.getD defaultTimeout) =
      some endpoint) (polls : Nat) :
    Selects (connectOutcome surroundings handshake options true polls) (.muxTcp endpoint) ∧
      (connectOutcome surroundings handshake options true polls).2.sleeps = 0 := by
  rw [connectOutcome_eq, decideConnect_sticky noPort, reachable]
  exact ⟨(selects_openedTcp_iff reachable).mpr rfl, Decision.outcome_sleeps⟩

end Selection

/-! ## The two ways to find a socket -/

namespace Surroundings

variable {surroundings : Surroundings} {timeout : Duration}

/-- `find_mux_socket` finds another socket than `default_socket_path` names only
where it falls back to `/tmp`. -/
theorem findMuxSocket_cases {path : String} (found : surroundings.findMuxSocket = some path) :
    path = surroundings.defaultSocketPath ∨
      surroundings.var .mux = none ∧
        ∃ directory, surroundings.var .xdgRuntimeDir = some directory ∧
          surroundings.pathExists (xdgSocket directory) = false ∧
          surroundings.pathExists tmpSocket = true := by
  cases present : surroundings.pathExists surroundings.defaultSocketPath with
  | true =>
      rw [findMuxSocket_defaultSocketPath present] at found
      exact .inl (Option.some.inj found).symm
  | false =>
      apply Or.inr
      rw [defaultSocketPath] at present
      rw [findMuxSocket] at found
      cases muxSet : surroundings.var .mux with
      | some candidate =>
          simp only [muxSet] at present found
          rw [socketAt, present] at found
          cases found
      | none =>
          cases xdgSet : surroundings.var .xdgRuntimeDir with
          | none =>
              simp only [muxSet, xdgSet] at present found
              rw [socketAt, present] at found
              cases found
          | some directory =>
              simp only [muxSet, xdgSet] at present found
              rw [socketAt, present, if_neg Bool.false_ne_true, Option.none_or] at found
              refine ⟨rfl, directory, rfl, present, ?_⟩
              have same : tmpSocket = path := by
                rw [socketAt] at found
                split at found
                · exact Option.some.inj found
                · cases found
              rw [same]
              exact socketAt_eq_some found

theorem findMuxSocket_of_fallsBack (fallsBack : FallsBack surroundings timeout) :
    surroundings.findMuxSocket = some tmpSocket ∧
      surroundings.pathExists surroundings.defaultSocketPath = false := by
  rcases fallsBack with ⟨_, muxUnset, directory, xdgSet, absent, present⟩
  constructor
  · rw [findMuxSocket]
    simp only [muxUnset, xdgSet]
    simp [socketAt, absent, present]
  · rw [defaultSocketPath]
    simp only [muxUnset, xdgSet]
    exact absent

end Surroundings

/-- A later call finds the mux of the first one except where the first had to fall
back to `/tmp`. -/
theorem sticky_reconnects_iff (surroundings : Surroundings)
    (handshake : TransportKind → ConnectOptions types → Duration →
      Option (ClientResult Unit)) (options : ConnectOptions types)
    (noPort : options.port = none) :
    Reconnects surroundings handshake options ↔
      ¬ FallsBack surroundings (options.timeout.getD defaultTimeout) := by
  constructor
  · intro reconnects fallsBack
    have unreachable := Surroundings.reachableTcp_eq_none_iff.mpr fallsBack.1
    rcases Surroundings.findMuxSocket_of_fallsBack fallsBack with ⟨found, absent⟩
    have selected : Selects (connectOutcome surroundings handshake options false 0)
        (.muxUnix tmpSocket) :=
      (fresh_selects_iff noPort 0).mpr (.inr ⟨unreachable, tmpSocket, found, rfl⟩)
    have atOnce := (reconnects 0 _ selected 0).2
    rw [connectOutcome_eq, Decision.outcome_sleeps, decideConnect_sticky noPort,
      unreachable] at atOnce
    have waits : 0 < (awaitSocket (fun _ => surroundings)
        surroundings.defaultSocketPath 0 0).sleeps :=
      awaitSocket_waits 0 absent
    exact absurd atOnce (Nat.ne_of_gt waits)
  · intro noFallback polls kind selected later
    rcases (fresh_selects_iff noPort polls).mp selected with
      ⟨endpoint, reachable, same⟩ | ⟨unreachable, path, found, same⟩
    · rw [same]
      exact sticky_at_tcp noPort reachable later
    · rcases Surroundings.findMuxSocket_cases found with isDefault | fallback
      · have present := Surroundings.findMuxSocket_exists found
        rw [isDefault] at present same
        rw [same]
        exact sticky_at_present_socket noPort unreachable present later
      · exact absurd ⟨Surroundings.reachableTcp_eq_none_iff.mp unreachable, fallback⟩
          noFallback

def Surroundings.tmpMux (runtimeDir : Option String) : Surroundings where
  var name := if name = .xdgRuntimeDir then runtimeDir else none
  pathExists path := path == tmpSocket
  tcp _ _ _ := .timedOut
  unix path := if path = tmpSocket then none else some "No such file or directory"
  serial _ := some "No such file or directory"
  ports := some []

theorem sticky_reconnects_without_runtimeDir :
    ¬ FallsBack (.tmpMux none) defaultTimeout ∧
      Reconnects (.tmpMux none) handshakeSucceeds .new := by
  have noFallback : ¬ FallsBack (.tmpMux none) defaultTimeout := by
    rintro ⟨_, _, directory, xdgSet, _⟩
    cases xdgSet
  exact ⟨noFallback, (sticky_reconnects_iff (.tmpMux none) handshakeSucceeds .new rfl).mpr
    noFallback⟩

/-- With `XDG_RUNTIME_DIR` set and the mux in `/tmp`, the first call connects and a
later one waits for a socket that is not there. -/
theorem sticky_waits_for_other_socket :
    connectOutcome (.tmpMux (some "/run/user/1000")) handshakeSucceeds .new false 0 =
      (some (.ok ()), ⟨true, [⟨.muxUnix "/tmp/donglora-mux.sock", true⟩], 0⟩) ∧
    connectOutcome (.tmpMux (some "/run/user/1000")) handshakeSucceeds .new true 3 =
      (none, ⟨true, [], 4⟩) ∧
    ¬ Reconnects (.tmpMux (some "/run/user/1000")) handshakeSucceeds .new := by
  have first : connectOutcome (.tmpMux (some "/run/user/1000")) handshakeSucceeds .new false 0 =
      (some (.ok ()), ⟨true, [⟨.muxUnix "/tmp/donglora-mux.sock", true⟩], 0⟩) := rfl
  have later : connectOutcome (.tmpMux (some "/run/user/1000")) handshakeSucceeds .new true 3 =
      (none, ⟨true, [], 4⟩) := rfl
  refine ⟨first, later, ?_⟩
  intro reconnects
  have selected : Selects (connectOutcome (.tmpMux (some "/run/user/1000")) handshakeSucceeds
      .new false 0) (.muxUnix "/tmp/donglora-mux.sock") := by
    rw [first]
    exact ⟨rfl, true, rfl, fun _ => rfl⟩
  have atOnce := (reconnects 0 _ selected 3).2
  rw [later] at atOnce
  cases atOnce

end DongloraClient.Connect
