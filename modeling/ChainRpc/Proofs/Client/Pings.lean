import ChainRpc.Client.Machine
import Mathlib.Data.List.Induction

/-!
# Which settings decide about pings

A builder keeps the decision whether to ping apart from the schedule of the pings. A decision not to
ping outlives all options that are given later, and a decision to ping makes no schedule. So the
last of these settings does not always win: options with a schedule lose against an earlier decision
not to ping, and a decision to ping loses against earlier options without a schedule.
-/

namespace ChainRpc.Client

variable {β η : Type}

namespace Builder

/-- The builder after settings in their order. -/
def ofSettings (history : List Setting) : Builder := history.foldl set {}

namespace Setting

/-- Decides whether to ping. -/
def isDecision : Setting → Bool
  | .keepalive _ => true
  | _ => false

/-- Gives all options. -/
def isOptions : Setting → Bool
  | .options _ => true
  | _ => false

/-- Has a say in the schedule. -/
def isScheduling : Setting → Bool
  | .keepaliveDelay _ | .keepalivePeriod _ | .options _ => true
  | _ => false

end Setting

/-- The last setting of a kind. -/
def lastOf (kind : Setting → Bool) (history : List Setting) : Option Setting :=
  (history.filter kind).getLast?

/-! ### The last setting of a kind -/

@[simp] theorem lastOf_nil (kind : Setting → Bool) : lastOf kind [] = none := rfl

@[simp] theorem lastOf_concat (kind : Setting → Bool) (history : List Setting)
    (setting : Setting) :
    lastOf kind (history ++ [setting]) =
      if kind setting then some setting else lastOf kind history := by
  unfold lastOf
  rw [List.filter_append]
  by_cases hsame : kind setting <;> simp [hsame]

/-- The last setting of several kinds is the last one of its own. -/
theorem lastOf_of_lastOf_or {kind other : Setting → Bool} {history : List Setting}
    {setting : Setting} (hlast : lastOf (fun setting => kind setting || other setting) history =
      some setting) (hsame : kind setting = true) : lastOf kind history = some setting := by
  induction history using List.reverseRecOn with
  | nil => cases hlast
  | append_singleton history latest ih =>
      rw [lastOf_concat] at hlast ⊢
      by_cases hcounts : kind latest
      · simpa [hcounts] using hlast
      · by_cases hcounts' : other latest
        · obtain rfl : latest = setting := by simpa [hcounts'] using hlast
          exact absurd hsame hcounts
        · rw [if_neg hcounts]
          exact ih (by simpa [hcounts, hcounts'] using hlast)

/-! ### What a builder makes of its settings -/

@[simp] theorem ofSettings_concat (history : List Setting) (setting : Setting) :
    ofSettings (history ++ [setting]) = (ofSettings history).set setting :=
  List.foldl_append

/-- The builder has the last decision. It has a schedule, unless the options that last had a say in
it have none; and it has theirs, if nothing changed it since. -/
structure Follows (history : List Setting) (builder : Builder) : Prop where
  pings_eq_some_iff (enabled : Bool) :
    builder.pings = some enabled ↔ lastOf Setting.isDecision history = some (.keepalive enabled)
  keepalive_eq {options : Options} (last : lastOf Setting.isScheduling history =
    some (.options options)) : builder.options.keepalive = options.keepalive
  options_of_none (none : builder.options.keepalive = none) :
    ∃ options, lastOf Setting.isScheduling history = some (.options options)

theorem follows_start : Follows [] {} where
  pings_eq_some_iff enabled := by simp
  keepalive_eq hlast := by cases hlast
  options_of_none hnone := by cases hnone

theorem Follows.set {history : List Setting} {builder : Builder} (h : Follows history builder)
    (setting : Setting) : Follows (history ++ [setting]) (builder.set setting) := by
  constructor
  · intro enabled
    cases setting <;> simp [Builder.set, reschedule, Setting.isDecision, h.pings_eq_some_iff]
  · intro options hlast
    rw [lastOf_concat] at hlast
    cases setting with
    | address | timeout | keepalive | maxMessageSize | notifiesClose => exact h.keepalive_eq hlast
    | keepaliveDelay | keepalivePeriod => cases hlast
    | options given =>
        cases hlast
        rfl
  · intro hnone
    rw [lastOf_concat]
    cases setting with
    | address | timeout | keepalive | maxMessageSize | notifiesClose =>
        exact h.options_of_none hnone
    | keepaliveDelay | keepalivePeriod => cases hnone
    | options given => exact ⟨given, rfl⟩

theorem follows_ofSettings (history : List Setting) : Follows history (ofSettings history) := by
  induction history using List.reverseRecOn with
  | nil => exact follows_start
  | append_singleton history setting ih =>
      rw [ofSettings_concat]
      exact ih.set setting

/-! ### The client that is built -/

/-- Of the checked options, only the schedule may differ from the given ones. -/
theorem keepalive_of_checkedOptions {builder : Builder} {options : Options}
    (hchecked : builder.checkedOptions = .ok options) :
    options.keepalive =
      if builder.pings = some false then none else builder.options.keepalive := by
  unfold checkedOptions at hchecked
  dsimp only at hchecked
  generalize (if builder.pings = some false then none else builder.options.keepalive) =
    keepalive at hchecked ⊢
  split at hchecked
  · cases hchecked
  · split at hchecked
    · cases hchecked
    · split at hchecked
      · cases hchecked
      · cases hchecked
        rfl

theorem ofBuilder_eq_ok_iff {builder : Builder} {client : Client β η} :
    ofBuilder builder = .ok client ↔
      ∃ address options, builder.checkedAddress = .ok address ∧
        builder.checkedOptions = .ok options ∧ client = { address, options } := by
  unfold ofBuilder
  cases builder.checkedAddress with
  | error error => simp [bind, Except.bind]
  | ok address =>
      cases builder.checkedOptions with
      | error error => simp [bind, Except.bind]
      | ok options => simp [bind, Except.bind, pure, Except.pure, eq_comm]

/-- The schedule of a client that was built. -/
theorem keepalive_of_built {history : List Setting} {client : Client β η}
    (hbuilt : ofBuilder (ofSettings history) = .ok client) :
    client.options.settings.keepalive =
      if lastOf Setting.isDecision history = some (.keepalive false) then none
      else (ofSettings history).options.keepalive := by
  obtain ⟨address, options, -, hchecked, rfl⟩ := ofBuilder_eq_ok_iff.mp hbuilt
  refine (keepalive_of_checkedOptions hchecked).trans ?_
  simp only [(follows_ofSettings history).pings_eq_some_iff]

/-- Of a client that was built from settings, which last decided whether to ping or were given as
all options:

* if the last of them is a decision, the client has a schedule exactly when the decision is to ping
  and the last setting with a say in the schedule is not options without one;
* if options are the last of them and no part of the schedule was set after them, the client has
  their schedule, present or absent, unless the last decision was not to ping; then it has none. -/
theorem keepalive_of_last_setting {history : List Setting} {client : Client β η}
    (hbuilt : ofBuilder (ofSettings history) = .ok client) :
    (∀ enabled,
      lastOf (fun setting => setting.isDecision || setting.isOptions) history =
        some (.keepalive enabled) →
      (client.options.settings.keepalive.isSome = true ↔
        enabled = true ∧ ¬∃ options, options.keepalive = none ∧
          lastOf Setting.isScheduling history = some (.options options))) ∧
    ∀ options,
      lastOf (fun setting => setting.isScheduling || setting.isDecision) history =
        some (.options options) →
      client.options.settings.keepalive =
        if lastOf Setting.isDecision history = some (.keepalive false) then none
        else options.keepalive := by
  have hfollows := follows_ofSettings history
  constructor
  · intro enabled hlast
    have hdecision := lastOf_of_lastOf_or hlast rfl
    rw [keepalive_of_built hbuilt, hdecision]
    cases enabled with
    | false => simp
    | true =>
        cases hgiven : (ofSettings history).options.keepalive with
        | none =>
            obtain ⟨options, hschedule⟩ := hfollows.options_of_none hgiven
            have habsent := (hfollows.keepalive_eq hschedule).symm.trans hgiven
            simp [hschedule, habsent]
        | some schedule =>
            have hpresent : ∀ options, options.keepalive = none →
                lastOf Setting.isScheduling history ≠ some (.options options) := by
              intro options habsent hlast
              rw [hfollows.keepalive_eq hlast, habsent] at hgiven
              cases hgiven
            simpa using hpresent
  · intro options hlast
    rw [keepalive_of_built hbuilt, hfollows.keepalive_eq (lastOf_of_lastOf_or hlast rfl)]

theorem exists_built {history : List Setting}
    (haddress : (ofSettings history).checkedAddress.isOk = true)
    (hoptions : (ofSettings history).checkedOptions.isOk = true) :
    ∃ client : Client β η, ofBuilder (ofSettings history) = .ok client := by
  cases hchecked : (ofSettings history).checkedAddress with
  | error error => simp [hchecked, Except.isOk, Except.toBool] at haddress
  | ok place =>
      cases hchecked' : (ofSettings history).checkedOptions with
      | error error => simp [hchecked', Except.isOk, Except.toBool] at hoptions
      | ok given => exact ⟨_, ofBuilder_eq_ok_iff.mpr ⟨place, given, hchecked, hchecked', rfl⟩⟩

/-- A decision to ping, behind options without a schedule and a delay that makes one. -/
def sampleDecision : List Setting :=
  [.address "ws://[::1]:9944", .options { keepalive := none }, .keepalive false,
   .keepaliveDelay (.seconds 5), .keepalive true, .maxMessageSize 1024]

/-- Options with a schedule, behind a decision that was taken back. -/
def sampleOptions : List Setting :=
  [.address "ws://[::1]:9944", .keepalive false, .keepalive true,
   .options { keepalive := some { period := .seconds 1 } }, .notifiesClose]

theorem sampleSettings_win :
    (∃ client : Client Unit Unit, ofBuilder (ofSettings sampleDecision) = .ok client ∧
      client.options.settings.keepalive.isSome = true) ∧
    ∃ client : Client Unit Unit, ofBuilder (ofSettings sampleOptions) = .ok client ∧
      client.options.settings.keepalive = some { period := .seconds 1 } := by
  constructor
  · obtain ⟨client, hbuilt⟩ : ∃ client : Client Unit Unit,
        ofBuilder (ofSettings sampleDecision) = .ok client :=
      exists_built (by decide +kernel) (by decide +kernel)
    refine ⟨client, hbuilt, ((keepalive_of_last_setting hbuilt).1 true rfl).mpr ⟨rfl, ?_⟩⟩
    rintro ⟨options, -, hlast⟩
    cases hlast
  · obtain ⟨client, hbuilt⟩ : ∃ client : Client Unit Unit,
        ofBuilder (ofSettings sampleOptions) = .ok client :=
      exists_built (by decide +kernel) (by decide +kernel)
    exact ⟨client, hbuilt, (keepalive_of_last_setting hbuilt).2 _ rfl⟩

/-- The usual options, with their schedule, behind a decision not to ping. -/
def mutedOptions : List Setting :=
  [.address "ws://[::1]:9944", .keepalive false, .options {}]

/-- A decision to ping behind options without a schedule. -/
def emptyDecision : List Setting :=
  [.address "ws://[::1]:9944", .options { keepalive := none }, .keepalive true]

/-- The later settings lose: neither client has a schedule. -/
theorem later_settings_lose :
    (∃ client : Client Unit Unit, ofBuilder (ofSettings mutedOptions) = .ok client ∧
      client.options.settings.keepalive = none) ∧
    (∃ client : Client Unit Unit, ofBuilder (ofSettings emptyDecision) = .ok client ∧
      client.options.settings.keepalive = none) ∧
    ¬∀ (history : List Setting) (client : Client Unit Unit),
      ofBuilder (ofSettings history) = .ok client →
      (∀ enabled,
        lastOf (fun setting => setting.isDecision || setting.isOptions) history =
          some (.keepalive enabled) →
        (client.options.settings.keepalive.isSome = true ↔ enabled = true)) ∧
      ∀ options,
        lastOf (fun setting => setting.isScheduling || setting.isDecision) history =
          some (.options options) →
        client.options.settings.keepalive = options.keepalive := by
  obtain ⟨client, hbuilt⟩ : ∃ client : Client Unit Unit,
      ofBuilder (ofSettings mutedOptions) = .ok client :=
    exists_built (by decide +kernel) (by decide +kernel)
  have hmuted : client.options.settings.keepalive = none := keepalive_of_built hbuilt
  obtain ⟨client', hbuilt'⟩ : ∃ client : Client Unit Unit,
      ofBuilder (ofSettings emptyDecision) = .ok client :=
    exists_built (by decide +kernel) (by decide +kernel)
  refine ⟨⟨client, hbuilt, hmuted⟩, ⟨client', hbuilt', keepalive_of_built hbuilt'⟩, fun hwins => ?_⟩
  have hscheduled := (hwins mutedOptions client hbuilt).2 {} rfl
  rw [hmuted] at hscheduled
  cases hscheduled

end Builder

end ChainRpc.Client
