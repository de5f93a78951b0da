import Mathlib.Data.String.Basic
import PortableSql.Expression.FunctionTable
import PortableSql.Proofs.Text.LowerCase

/-! What a history of registrations makes of a function name. The last change to a name in
small letters decides what it stands for: nothing, a function, or another name, which is
looked up as it is written. A name denotes the function that such a chain comes to within
eight look-ups, so chains that are longer, that run in a circle or that end at a name
without an entry denote nothing. A table built from nothing resolves and calls names by
that rule, and it lists the names that the history leaves registered. -/

namespace PortableSql

/-- The failure with another function name. -/
def Failure.about (name : String) : Failure → Failure
  | .unknownFunction _ => .unknownFunction name
  | .wrongArity _ expected actual => .wrongArity name expected actual
  | failure => failure

namespace FunctionTable

namespace Change

/-- The name that a change is about, in small letters. -/
def key : Change → String
  | register name _ => Text.lower name
  | unregister name => Text.lower name

/-- What a change leaves under its name. -/
def entry? : Change → Option FunctionEntry
  | register _ entry => some entry
  | unregister _ => none

end Change

/-- The last change about the key leaves the entry under it. -/
def Leaves (changes : List Change) (key : String) (entry : FunctionEntry) : Prop :=
  ∃ c later, c :: later <:+ changes ∧
    c.key = key ∧ c.entry? = some entry ∧ ∀ d ∈ later, d.key ≠ key

/-- The key is registered and not unregistered since. -/
def Lists (changes : List Change) (key : String) : Prop :=
  ∃ c later, c :: later <:+ changes ∧
    c.key = key ∧ c.entry?.isSome = true ∧ ∀ d ∈ later, d.entry? = none → d.key ≠ key

/-- Where `entries` says what stands under a key, a chain of aliases comes from the key to a
function with that many look-ups. -/
inductive Reaches (entries : String → FunctionEntry → Prop) : String → Nat → Callable → Prop
  | callable {key : String} {f : Callable} (h : entries key (.callable f)) :
      Reaches entries key 1 f
  | synonym {key target : String} {lookUps : Nat} {f : Callable} (h : entries key (.synonym target))
      (rest : Reaches entries target lookUps f) : Reaches entries key (lookUps + 1) f

/-- The function that the name stands for after the changes. -/
def Denotes (changes : List Change) (name : String) (f : Callable) : Prop :=
  ∃ lookUps ≤ 8, Reaches (Leaves changes) (Text.lower name) lookUps f

/-- What looking up a name comes to. -/
inductive Resolution (changes : List Change) (name : String) : Except Failure Callable → Prop
  | found {f : Callable} (h : Denotes changes name f) : Resolution changes name (.ok f)
  | unknown (h : ∀ f, ¬ Denotes changes name f) :
      Resolution changes name (.error (.unknownFunction name))

/-- What calling a name with arguments comes to. -/
inductive Call (changes : List Change) (name : String) (arguments : List String) :
    Except Failure String → Prop
  | rendered {f : Callable} (h : Denotes changes name f) (least : f.arity.least ≤ arguments.length)
      (most : ∀ most ∈ f.arity.most, arguments.length ≤ most) :
      Call changes name arguments (.ok (f.form.render arguments))
  | refused {f : Callable} (h : Denotes changes name f)
      (count : arguments.length < f.arity.least ∨ ∃ most ∈ f.arity.most, most < arguments.length) :
      Call changes name arguments (.error (.wrongArity name f.arity arguments.length))
  | unknown (h : ∀ f, ¬ Denotes changes name f) :
      Call changes name arguments (.error (.unknownFunction name))

variable {t : FunctionTable} {c : Change} {changes : List Change} {key name : String}
  {entry : FunctionEntry} {f : Callable}

/-- A suffix with a head begins at the first change or at a later one. -/
theorem exists_cons_suffix_cons {p : Change → List Change → Prop} :
    (∃ d later, d :: later <:+ c :: changes ∧ p d later) ↔
      p c changes ∨ ∃ d later, d :: later <:+ changes ∧ p d later := by
  constructor
  · rintro ⟨d, later, hsuffix, h⟩
    rcases List.suffix_cons_iff.1 hsuffix with heq | hsuffix
    · obtain ⟨rfl, rfl⟩ := List.cons.inj heq
      exact .inl h
    · exact .inr ⟨d, later, hsuffix, h⟩
  · rintro (h | ⟨d, later, hsuffix, h⟩)
    · exact ⟨c, changes, List.suffix_rfl, h⟩
    · exact ⟨d, later, hsuffix.trans (List.suffix_cons _ _), h⟩

theorem leaves_cons :
    Leaves (c :: changes) key entry ↔
      (c.key = key ∧ c.entry? = some entry ∧ ∀ d ∈ changes, d.key ≠ key) ∨
        Leaves changes key entry :=
  exists_cons_suffix_cons

theorem lists_cons :
    Lists (c :: changes) key ↔
      (c.key = key ∧ c.entry?.isSome = true ∧ ∀ d ∈ changes, d.entry? = none → d.key ≠ key) ∨
        Lists changes key :=
  exists_cons_suffix_cons

/-- A change decides what stands under its own key and touches no other. -/
theorem getElem?_apply (c : Change) (t : FunctionTable) (key : String) :
    (c.apply t).entries[key]? = if c.key = key then c.entry? else t.entries[key]? := by
  cases c with
  | register name entry =>
    simp only [Change.apply, insert, Std.TreeMap.getElem?_insert, Std.LawfulEqCmp.compare_eq_iff_eq]
    rfl
  | unregister name =>
    simp only [Change.apply, erase, Std.TreeMap.getElem?_erase, Std.LawfulEqCmp.compare_eq_iff_eq]
    rfl

theorem getElem?_run :
    (t.run changes).entries[key]? = some entry ↔
      Leaves changes key entry ∨
        (t.entries[key]? = some entry ∧ ∀ c ∈ changes, c.key ≠ key) := by
  induction changes generalizing t with
  | nil => simp [Leaves]
  | cons c changes ih =>
    rw [run_cons, ih, leaves_cons, getElem?_apply, List.forall_mem_cons]
    split_ifs with hkey
    · tauto
    · tauto

theorem getElem?_run_empty :
    (empty.run changes).entries[key]? = some entry ↔ Leaves changes key entry := by
  simp [getElem?_run, empty]

theorem mem_names : key ∈ t.names ↔ t.entries[key]?.isSome = true := by
  rw [names, Std.TreeMap.mem_keys, Std.TreeMap.mem_iff_isSome_getElem?]

theorem mem_names_apply :
    key ∈ (c.apply t).names ↔
      if c.key = key then c.entry?.isSome = true else key ∈ t.names := by
  rw [mem_names, getElem?_apply, mem_names]
  split_ifs
  · rfl
  · rfl

theorem mem_names_run :
    key ∈ (t.run changes).names ↔
      Lists changes key ∨ (key ∈ t.names ∧ ∀ c ∈ changes, c.entry? = none → c.key ≠ key) := by
  induction changes generalizing t with
  | nil => simp [Lists]
  | cons c changes ih =>
    rw [run_cons, ih, lists_cons, mem_names_apply, List.forall_mem_cons]
    cases c.entry? with
    | some entry =>
      simp only [Option.isSome_some]
      split_ifs
      · tauto
      · tauto
    | none =>
      simp only [Option.isSome_none]
      split_ifs
      · tauto
      · tauto

theorem mem_names_run_empty : key ∈ (empty.run changes).names ↔ Lists changes key := by
  rw [mem_names_run]
  simp [mem_names, empty]

theorem names_pairwise (t : FunctionTable) : t.names.Pairwise (· < ·) :=
  Std.TreeMap.ordered_keys.imp compare_lt_iff_lt.1

/-- Following aliases finds the function that a chain comes to in as many look-ups at most. -/
theorem follow_eq_some_iff {steps : Nat} :
    (t.follow steps key).2 = some f ↔
      ∃ lookUps ≤ steps, Reaches (fun k e => t.entries[k]? = some e) key lookUps f := by
  induction steps generalizing key with
  | zero =>
    refine iff_of_false (fun h => Option.some_ne_none f h.symm) ?_
    rintro ⟨lookUps, hle, hreaches⟩
    cases hreaches with
    | callable => omega
    | synonym => omega
  | succ steps ih =>
    rw [follow]
    constructor
    · intro h
      split at h
      · rename_i g hentry
        obtain rfl := Option.some.inj h
        exact ⟨1, by omega, .callable hentry⟩
      · rename_i target hentry
        obtain ⟨lookUps, hle, hrest⟩ := ih.1 h
        exact ⟨lookUps + 1, by omega, .synonym hentry hrest⟩
      · exact absurd h.symm (Option.some_ne_none f)
    · rintro ⟨lookUps, hle, hreaches⟩
      cases hreaches with
      | callable hentry => rw [hentry]
      | synonym hentry hrest =>
        rw [hentry]
        exact ih.2 ⟨_, by omega, hrest⟩

theorem find?_run_empty : (empty.run changes).find? name = some f ↔ Denotes changes name f := by
  have hentries : (fun k e => (empty.run changes).entries[k]? = some e) = Leaves changes :=
    funext fun _ => funext fun _ => propext getElem?_run_empty
  rw [find?, follow_eq_some_iff, hentries]
  rfl

theorem find?_run_empty_of_forall_not (h : ∀ f, ¬ Denotes changes name f) :
    (empty.run changes).find? name = none :=
  Option.eq_none_iff_forall_ne_some.2 fun f hfind => h f (find?_run_empty.1 hfind)

theorem Resolution.eq {outcome : Except Failure Callable}
    (h : Resolution changes name outcome) : (empty.run changes).resolve name = outcome := by
  cases h with
  | found hf => rw [resolve, find?_run_empty.2 hf]
  | unknown hnone => rw [resolve, find?_run_empty_of_forall_not hnone]

theorem resolve_eq_iff {outcome : Except Failure Callable} :
    (empty.run changes).resolve name = outcome ↔ Resolution changes name outcome := by
  refine ⟨?_, Resolution.eq⟩
  rintro rfl
  by_cases hdenotes : ∃ f, Denotes changes name f
  · obtain ⟨f, hf⟩ := hdenotes
    have hfound := Resolution.found hf
    rwa [hfound.eq]
  · have hunknown := Resolution.unknown (not_exists.1 hdenotes)
    rwa [hunknown.eq]

theorem render_of_resolve (h : t.resolve name = .ok f) (arguments : List String) :
    t.render name arguments =
      if f.arity.accepts arguments.length then .ok (f.form.render arguments)
      else .error (.wrongArity name f.arity arguments.length) := by
  rw [render, h]
  rfl

theorem render_of_resolve_error {failure : Failure} (h : t.resolve name = .error failure)
    (arguments : List String) : t.render name arguments = .error failure := by
  rw [render, h]
  rfl

theorem Call.eq {arguments : List String} {outcome : Except Failure String}
    (h : Call changes name arguments outcome) :
    (empty.run changes).render name arguments = outcome := by
  cases h with
  | rendered hf least most =>
    rw [render_of_resolve (Resolution.found hf).eq, if_pos (Arity.accepts_iff.2 ⟨least, most⟩)]
  | refused hf count =>
    rw [render_of_resolve (Resolution.found hf).eq, if_neg]
    rw [Arity.accepts_iff]
    rintro ⟨least, most⟩
    rcases count with hfew | ⟨bound, hbound, hmany⟩
    · omega
    · have hle := most bound hbound
      omega
  | unknown hnone => exact render_of_resolve_error (Resolution.unknown hnone).eq arguments

theorem render_eq_iff {arguments : List String} {outcome : Except Failure String} :
    (empty.run changes).render name arguments = outcome ↔ Call changes name arguments outcome := by
  refine ⟨?_, Call.eq⟩
  rintro rfl
  obtain ⟨outcome, hcall⟩ : ∃ outcome, Call changes name arguments outcome := by
    by_cases hdenotes : ∃ f, Denotes changes name f
    · obtain ⟨f, hf⟩ := hdenotes
      by_cases hcount : f.arity.accepts arguments.length = true
      · obtain ⟨hleast, hmost⟩ := Arity.accepts_iff.1 hcount
        exact ⟨_, .rendered hf hleast hmost⟩
      · rw [Arity.accepts_iff, not_and_or] at hcount
        push Not at hcount
        exact ⟨_, .refused hf hcount⟩
    · exact ⟨_, .unknown (not_exists.1 hdenotes)⟩
  rwa [hcall.eq]

/-- Spellings with the same small letters are resolved alike. -/
theorem resolve_of_lower_eq {other : String} (t : FunctionTable)
    (h : Text.lower other = Text.lower name) :
    t.resolve other = (t.resolve name).mapError (·.about other) := by
  have hfind : t.find? other = t.find? name := by rw [find?, find?, h]
  rw [resolve, resolve, hfind]
  cases t.find? name with
  | some f => rfl
  | none => rfl

theorem render_of_lower_eq {other : String} (t : FunctionTable)
    (h : Text.lower other = Text.lower name) (arguments : List String) :
    t.render other arguments = (t.render name arguments).mapError (·.about other) := by
  have hother := t.resolve_of_lower_eq h
  cases hname : t.resolve name with
  | ok f =>
    rw [hname] at hother
    rw [render_of_resolve hname, render_of_resolve hother]
    split_ifs
    · rfl
    · rfl
  | error failure =>
    rw [hname] at hother
    rw [render_of_resolve_error hname, render_of_resolve_error hother]
    rfl

theorem Change.lower_key (c : Change) : Text.lower c.key = c.key := by
  cases c with
  | register name entry => exact Text.lower_lower name
  | unregister name => exact Text.lower_lower name

/-- Listed names are in small letters. -/
theorem lower_of_lists (h : Lists changes key) : Text.lower key = key := by
  obtain ⟨c, later, -, rfl, -⟩ := h
  exact c.lower_key

/-- A table built from nothing resolves and calls every name as its history says, in any letter
case, and lists in order the names in small letters that are registered and not unregistered
since. -/
theorem calls_read_history (changes : List Change) (name : String) (arguments : List String) :
    let t := empty.run changes
    (∀ outcome, t.resolve name = outcome ↔ Resolution changes name outcome) ∧
      (∀ outcome, t.render name arguments = outcome ↔ Call changes name arguments outcome) ∧
      (∀ other, Text.lower other = Text.lower name →
        t.resolve other = (t.resolve name).mapError (·.about other) ∧
          t.render other arguments = (t.render name arguments).mapError (·.about other)) ∧
      t.names.Pairwise (· < ·) ∧
      ∀ key, (key ∈ t.names ↔ Lists changes key) ∧ (key ∈ t.names → Text.lower key = key) := by
  intro t
  refine ⟨fun _ => resolve_eq_iff, fun _ => render_eq_iff, fun other h => ?_, t.names_pairwise,
    fun key => ⟨mem_names_run_empty, fun h => lower_of_lists (mem_names_run_empty.1 h)⟩⟩
  exact ⟨t.resolve_of_lower_eq h, t.render_of_lower_eq h arguments⟩

end FunctionTable

end PortableSql
