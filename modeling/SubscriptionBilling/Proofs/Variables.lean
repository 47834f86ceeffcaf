import Mathlib.Data.List.Basic
import SubscriptionBilling.Settings.Loading
/-!
# Settings of a single variable

The value of a variable is a text whose type is guessed: a truth value, an integer,
a double, in this order, or just a text (`guessed`).

Where only one of the variables counts that are set, whatever else there is in the
environment, the tree of settings has just the value of that variable
(`OnlySet.ofVariables?`).  A section that is alone in the tree is read by itself,
and the other sections have their defaults (`ofSetting_billing`).
-/

namespace SubscriptionBilling.Settings

open Text

/-! ## The type of a text -/

/-- How the type of a text is guessed, and what was tried before. -/
inductive Guessed (v : String) : Setting → Prop
  | on (hword : lowercase v = "true") : Guessed v (.truth true)
  | off (hword : lowercase v = "false") : Guessed v (.truth false)
  | integer (i : Int) (hinteger : word64? v = some i) : Guessed v (.integer i)
  | double (x : Double) (hinteger : word64? v = none) (hdouble : Double.ofText? v = some x) :
      Guessed v (.double x)
  | text (hinteger : word64? v = none) (hdouble : Double.ofText? v = none)
      (htrue : lowercase v ≠ "true") : Guessed v (.text v)

/-- What is no truth value is tried as a number. -/
theorem guess_of_number {v : String} (htrue : lowercase v ≠ "true")
    (hfalse : lowercase v ≠ "false") :
    Setting.guess v =
      match word64? v with
      | some i => .integer i
      | none =>
        match Double.ofText? v with
        | some x => .double x
        | none => .text v :=
  (if_neg htrue).trans (if_neg hfalse)

/-- What is guessed from a text is one of the guesses, in the order in which they are
tried. -/
theorem guessed (v : String) : Guessed v (.guess v) := by
  by_cases htrue : lowercase v = "true"
  · have hguess : Setting.guess v = .truth true := if_pos htrue
    rw [hguess]
    exact .on htrue
  by_cases hfalse : lowercase v = "false"
  · have hguess : Setting.guess v = .truth false := (if_neg htrue).trans (if_pos hfalse)
    rw [hguess]
    exact .off hfalse
  rw [guess_of_number htrue hfalse]
  cases hinteger : word64? v with
  | some i => exact .integer i hinteger
  | none =>
      cases hdouble : Double.ofText? v with
      | some x => exact .double x hinteger hdouble
      | none => exact .text hinteger hdouble htrue

/-! ## A single variable -/

/-- Of the variables that count, only one is set. -/
structure OnlySet (env : OrderedMap String String) (name value : String) : Prop where
  isSet : env.find? name = some value
  others : ∀ other ∈ env.keys, other ≠ name → variablePath? other = none

/-- There are no others if it is the only variable at all. -/
theorem onlySet_set (name value : String) :
    OnlySet (OrderedMap.empty.set name value) name value := by
  refine ⟨(OrderedMap.find?_set ..).trans (if_pos rfl), ?_⟩
  intro other hother hne
  rcases OrderedMap.mem_keys_set.mp hother with heq | hnone
  · exact absurd heq hne
  · cases hnone

/-- One variable's part in the tree of settings. -/
def Setting.putVariable? (top : Setting) (entry : String × String) : Option Setting :=
  match variablePath? entry.1 with
  | none => some top
  | some path => top.putAt? path (.guess entry.2)

/-- All variables are put into the settings one after the other, and the first bad place
spoils them. -/
theorem Setting.ofVariables?_eq (env : OrderedMap String String) :
    ofVariables? env = env.entries.foldlM putVariable? (.table []) :=
  rfl

/-- Variables that do not count leave the tree as it is. -/
theorem Setting.foldlM_putVariable? {entries : List (String × String)}
    (h : ∀ entry ∈ entries, variablePath? entry.1 = none) (top : Setting) :
    entries.foldlM putVariable? top = some top := by
  induction entries with
  | nil => rfl
  | cons entry rest ih =>
      have hskip : putVariable? top entry = some top := by
        unfold putVariable?
        rw [h entry List.mem_cons_self]
      rw [List.foldlM_cons, hskip]
      exact ih fun other hother => h other (List.mem_cons_of_mem _ hother)

/-- If only one variable counts, then the tree has just its value. -/
theorem OnlySet.ofVariables? {env : OrderedMap String String} {name value : String}
    (h : OnlySet env name value) {path : Path} (hpath : variablePath? name = some path) :
    Setting.ofVariables? env = (Setting.table []).putAt? path (.guess value) := by
  obtain ⟨front, back, hentries⟩ :=
    List.append_of_mem (OrderedMap.find?_eq_some_iff.mp h.isSet)
  have hnodup : ((front ++ (name, value) :: back).map Prod.fst).Nodup := hentries ▸ env.nodup
  have hkeys : ∀ entry ∈ front ++ back, variablePath? entry.1 = none := by
    intro entry hentry
    have hkey : entry.1 ∈ env.keys := by
      rw [OrderedMap.keys, hentries]
      refine List.mem_map_of_mem ?_
      rcases List.mem_append.mp hentry with hfront | hback
      · exact List.mem_append_left _ hfront
      · exact List.mem_append_right _ (List.mem_cons_of_mem _ hback)
    refine h.others entry.1 hkey fun hname => ?_
    rw [List.perm_middle.map Prod.fst |>.nodup_iff, List.map_cons, List.nodup_cons] at hnodup
    have hmem : name ∈ (front ++ back).map Prod.fst := hname ▸ List.mem_map_of_mem hentry
    exact hnodup.1 hmem
  have hput : (Setting.table []).putVariable? (name, value)
      = (Setting.table []).putAt? path (.guess value) := by
    unfold Setting.putVariable?
    rw [hpath]
  rw [Setting.ofVariables?_eq, hentries, List.foldlM_append,
    Setting.foldlM_putVariable? fun entry hentry => hkeys entry (List.mem_append_left _ hentry)]
  show ((name, value) :: back).foldlM Setting.putVariable? (.table []) = _
  rw [List.foldlM_cons, hput]
  cases (Setting.table []).putAt? path (.guess value) with
  | none => rfl
  | some top =>
      exact Setting.foldlM_putVariable?
        (fun entry hentry => hkeys entry (List.mem_append_right _ hentry)) top

/-- If there is a billing section only, then all else has its default. -/
theorem ofSetting_billing (billing : Setting) :
    ofSetting (.table [("billing", billing)]) =
      (Billing.ofSetting billing).map fun billing => { default with billing := billing } := by
  have hlogging : readSection (.table [("billing", billing)]) "logging" Logging.default
      Logging.ofSetting = .ok .default := rfl
  have hbilling : readSection (.table [("billing", billing)]) "billing" Billing.default
      Billing.ofSetting = Billing.ofSetting billing := rfl
  have hwebhooks : readSection (.table [("billing", billing)]) "webhooks" Webhooks.default
      Webhooks.ofSetting = .ok .default := rfl
  unfold ofSetting
  rw [hlogging, hbilling, hwebhooks]
  cases Billing.ofSetting billing with
  | ok b => rfl
  | error e => rfl

/-- What is loaded and found to be valid has been loaded. -/
theorem loadValid_eq_ok_iff {env : OrderedMap String String} {s : Settings} :
    loadValid env = some (.ok s) ↔ load env = some (.ok s) ∧ s.validate = .ok () := by
  unfold loadValid
  cases load env with
  | none => simp only [Option.map_none, reduceCtorEq, false_and]
  | some loaded =>
      rw [Option.map_some, Option.some.injEq, Option.some.injEq]
      cases loaded with
      | error e => exact ⟨(nomatch ·), (nomatch ·.1)⟩
      | ok settings =>
          show (settings.validate.mapError Error.invalid).bind _ = _ ↔ _
          rw [Except.ok.injEq]
          cases hvalid : settings.validate with
          | error e =>
              refine ⟨(nomatch ·), ?_⟩
              rintro ⟨rfl, hok⟩
              rw [hvalid] at hok
              cases hok
          | ok u =>
              constructor
              · intro h
                obtain rfl : settings = s := Except.ok.inj h
                exact ⟨rfl, hvalid⟩
              · rintro ⟨rfl, -⟩
                rfl

end SubscriptionBilling.Settings
