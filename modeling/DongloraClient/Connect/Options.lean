import DongloraClient.Connect.Selection

/-! # Connect options

`ConnectOptions` is filled in by a chain of calls, of which a later one overrules an
earlier one. `config` is about two fields at once.
-/

namespace DongloraClient.Connect

variable {types : WireTypes}

def ConnectOptions.default : ConnectOptions types where
  port := none
  timeout := none
  config := none
  autoConfigure := false
  keepalive := false

inductive Setting (types : WireTypes)
  | port (path : String)
  | timeout (timeout : Duration)
  | config (modulation : Modulation types)
  | autoConfigure (enabled : Bool)
  | keepalive (enabled : Bool)

def Setting.apply (options : ConnectOptions types) : Setting types → ConnectOptions types
  | .port path => { options with port := some path }
  | .timeout limit => { options with timeout := some limit }
  | .config modulation => { options with config := some modulation, autoConfigure := true }
  | .autoConfigure enabled => { options with autoConfigure := enabled }
  | .keepalive enabled => { options with keepalive := enabled }

def configure (base : ConnectOptions types) (settings : List (Setting types)) :
    ConnectOptions types :=
  settings.foldl Setting.apply base

def lastSetting {Value : Type} (reading : Setting types → Option Value)
    (settings : List (Setting types)) : Option Value :=
  settings.reverse.findSome? reading

def Setting.toConfig : Setting types → Option (Modulation types)
  | .config modulation => some modulation
  | _ => none

/-- A configuration also switches its application on. -/
def Setting.toSwitch : Setting types → Option Bool
  | .config _ => some true
  | .autoConfigure enabled => some enabled
  | _ => none

def Setting.toKeepalive : Setting types → Option Bool
  | .keepalive enabled => some enabled
  | _ => none

def requested (settings : List (Setting types)) : Option (Modulation types) :=
  if (lastSetting Setting.toSwitch settings).getD false then
    lastSetting Setting.toConfig settings
  else none

/-- A field that a setting either leaves alone or overwrites keeps what the last such
setting made it. -/
theorem configure_part {Value : Type} {part : ConnectOptions types → Value}
    {reading : Setting types → Option Value}
    (applied : ∀ options setting,
      part (Setting.apply options setting) = (reading setting).getD (part options))
    (base : ConnectOptions types) (settings : List (Setting types)) :
    part (configure base settings) = (lastSetting reading settings).getD (part base) := by
  induction settings generalizing base with
  | nil => rfl
  | cons setting settings induction =>
      rw [configure, List.foldl_cons]
      refine (induction (Setting.apply base setting)).trans ?_
      rw [applied, lastSetting, lastSetting, List.reverse_cons, List.findSome?_append]
      cases settings.reverse.findSome? reading with
      | some value => rfl
      | none => simp

theorem keepalive_configure (base : ConnectOptions types) (settings : List (Setting types)) :
    (configure base settings).keepalive =
      (lastSetting Setting.toKeepalive settings).getD base.keepalive :=
  configure_part (fun _ setting => by cases setting <;> rfl) base settings

theorem requested_configure {base : ConnectOptions types}
    (blank : base = .new ∨ base = .default) (settings : List (Setting types)) :
    requested settings =
      if (configure base settings).autoConfigure then (configure base settings).config
      else none := by
  have off : base.autoConfigure = false := by rcases blank with rfl | rfl <;> rfl
  have empty : base.config = none := by rcases blank with rfl | rfl <;> rfl
  have switched : (configure base settings).autoConfigure =
      (lastSetting Setting.toSwitch settings).getD base.autoConfigure :=
    configure_part (fun _ setting => by cases setting <;> rfl) base settings
  have configured : (configure base settings).config =
      (lastSetting (fun setting => setting.toConfig.map some) settings).getD base.config :=
    configure_part (fun _ setting => by cases setting <;> rfl) base settings
  have found : (lastSetting (fun setting => setting.toConfig.map some) settings).getD none =
      lastSetting Setting.toConfig settings := by
    rw [lastSetting, lastSetting]
    induction settings.reverse with
    | nil => rfl
    | cons setting settings induction =>
        cases read : setting.toConfig with
        | some modulation => simp [read]
        | none => simpa [read] using induction
  rw [requested, switched, configured, off, empty, found]

end DongloraClient.Connect
