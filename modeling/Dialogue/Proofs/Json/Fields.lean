import Dialogue.Json.Choice
import Dialogue.Proofs.Json.Value

/-!
# What the fields of an object hold

A record is decoded from an object field by field of the object, in the order in which they are
written. That order does not matter, and neither do the keys of no field. This is told here for
any readings, whether they have flaws or not.

An object decodes to what its own fields hold (`Dialogue.Json.Record.Gathers`,
`Dialogue.Json.Record.decodeFields_eq_ok_iff_gathers`). A record with several fields finds each
of them as it would find it alone (`Dialogue.Json.Record.gathers_and_iff`), and a single field is
found once, under any of its names, or missing (`Dialogue.Json.Record.gathers_single_iff`).

The fields that are not its own a record leaves to others in their order
(`Dialogue.Json.Record.splitFields_eq_ok_iff`), and so does a tag
(`Dialogue.Json.findTag_eq_ok_iff`).
-/

namespace Dialogue

namespace Json

/-! ### Values under a key -/

/-- The values under a key, in the order in which they stand. -/
def under (key : String) (fields : List (Option String × Reading)) : List Reading :=
  fields.filterMap fun e => if e.1 = some key then some e.2 else none

theorem under_cons (key : String) (e : Option String × Reading)
    (fields : List (Option String × Reading)) :
    under key (e :: fields) = if e.1 = some key then e.2 :: under key fields
      else under key fields := by
  rw [under, List.filterMap_cons]
  split <;> simp_all [under]

theorem mem_under {key : String} {r : Reading} {fields : List (Option String × Reading)} :
    r ∈ under key fields ↔ (some key, r) ∈ fields := by
  rw [under, List.mem_filterMap]
  constructor
  · rintro ⟨⟨name, r'⟩, hmem, h⟩
    obtain ⟨rfl, h⟩ := Option.ite_none_right_eq_some.mp h
    obtain rfl := Option.some.inj h
    exact hmem
  · exact fun h => ⟨_, h, if_pos rfl⟩

/-- The fields under a key are told by their values. -/
theorem filter_key_eq (key : String) (fields : List (Option String × Reading)) :
    fields.filter (fun e => e.1 = some key) = (under key fields).map (some key, ·) := by
  induction fields with
  | nil => rfl
  | cons e rest ih =>
    obtain ⟨name, r⟩ := e
    rw [under_cons, List.filter_cons]
    by_cases heq : name = some key
    · subst heq
      simp only [decide_true, if_true, ih, List.map_cons]
    · simp only [heq, decide_false, if_false, Bool.false_eq_true, ih]

/-- Leaving out fields under other keys changes nothing under a key. -/
theorem under_filter {p : Option String × Reading → Bool} {key : String}
    (hp : ∀ r, p (some key, r) = true) (fields : List (Option String × Reading)) :
    under key (fields.filter p) = under key fields := by
  induction fields with
  | nil => rfl
  | cons e rest ih =>
    obtain ⟨name, r⟩ := e
    rw [List.filter_cons, under_cons]
    split
    · rw [under_cons, ih]
    · next hout =>
      have hne : name ≠ some key := fun heq => hout (heq ▸ hp r)
      rw [ih, if_neg hne]

namespace Record

variable {α β : Type}

/-! ### The names of fields -/

/-- All keys under which the fields of a record are found. -/
def keys (rec : Record α) : List String :=
  rec.fields.flatMap fun f => f.name :: f.aliases

/-- Two records lie apart if no key belongs to both. -/
def Apart (first : Record α) (second : Record β) : Prop :=
  ∀ key ∈ first.keys, key ∉ second.keys

instance (first : Record α) (second : Record β) : Decidable (first.Apart second) :=
  inferInstanceAs (Decidable (∀ key ∈ first.keys, key ∉ second.keys))

theorem name_mem_keys {rec : Record α} {f : Field α} (hf : f ∈ rec.fields) :
    f.name ∈ rec.keys :=
  List.mem_flatMap.mpr ⟨f, hf, List.mem_cons_self⟩

/-- The field found under a key is one of the record, and the key one of its keys. -/
theorem mem_of_field? {rec : Record α} {key : String} {f : Field α}
    (h : rec.field? key = some f) : f ∈ rec.fields ∧ key ∈ rec.keys := by
  rw [field?] at h
  have hf : f ∈ rec.fields := List.mem_of_find?_eq_some h
  have hkey := List.find?_some h
  refine ⟨hf, List.mem_flatMap.mpr ⟨f, hf, ?_⟩⟩
  simp only [Field.answersTo, Bool.or_eq_true, beq_iff_eq, List.contains_iff_mem] at hkey
  obtain rfl | hkey := hkey
  · exact List.mem_cons_self
  · exact List.mem_cons_of_mem _ hkey

/-- No field is found under a key of another record that lies apart. -/
theorem Apart.field?_eq_none {first : Record α} {second : Record β} (h : first.Apart second)
    {key : String} {f : Field α} (hf : first.field? key = some f) : second.field? key = none := by
  cases hg : second.field? key with
  | none => rfl
  | some g => exact absurd (mem_of_field? hg).2 (h key (mem_of_field? hf).2)

/-! ### Fields one after the other -/

/-- The fields of the first record come first. -/
theorem field?_and (first : Record α) (second : Record β) (key : String) :
    (first.and second).field? key =
      ((first.field? key).map Field.inFirst).or ((second.field? key).map Field.inSecond) := by
  rw [field?, field?, field?, Record.and, List.find?_append, List.find?_map, List.find?_map]
  rfl

/-- Nothing is missing if nothing of either record is. -/
theorem checkMissing_eq_ok_iff {rec : Record α} {seen : List String} :
    rec.checkMissing seen = .ok () ↔
      ∀ f ∈ rec.fields, f.presence = .required → f.name ∈ seen := by
  unfold checkMissing
  cases h : rec.fields.find? fun f => f.presence == .required && !seen.contains f.name with
  | none => simpa using h
  | some f =>
    have hf := List.find?_some h
    simp only [Bool.and_eq_true, beq_iff_eq, Bool.not_eq_true', List.contains_eq_mem,
      decide_eq_false_iff_not] at hf
    refine ⟨nofun, fun hall => absurd (hall f (List.mem_of_find?_eq_some h) hf.1) hf.2⟩

section Steps

variable {rec : Record α} {source : Source} {stop : Stop} {key : String} {r : Reading}
  {fields : List (Option String × Reading)} {seen : List String} {a a' : α}

/-- At the end nothing may be missing. -/
theorem decodeFields_nil_eq_ok_iff :
    rec.decodeFields source stop [] seen a = .ok a' ↔
      stop = .closed ∧ (∀ f ∈ rec.fields, f.presence = .required → f.name ∈ seen) ∧ a = a' := by
  rw [← checkMissing_eq_ok_iff]
  cases stop with
  | cut afterComma read skip => exact ⟨nofun, fun h => nomatch h.1⟩
  | closed =>
    change (rec.checkMissing seen).bind (fun _ => .ok a) = .ok a' ↔ _
    cases rec.checkMissing seen with
    | error e => exact ⟨nofun, fun h => nomatch h.2.1⟩
    | ok u => exact ⟨fun h => ⟨rfl, rfl, Except.ok.inj h⟩, fun h => congrArg _ h.2.2⟩

/-- A key of no field is passed over. -/
theorem decodeFields_cons_of_none (h : rec.field? key = none) :
    rec.decodeFields source stop ((some key, r) :: fields) seen a =
      source.skip r >>= fun _ => rec.decodeFields source stop fields seen a := by
  rw [decodeFields, h]

/-- A key of a field puts the field, unless that was put before. -/
theorem decodeFields_cons_of_some {f : Field α} (h : rec.field? key = some f) :
    rec.decodeFields source stop ((some key, r) :: fields) seen a =
      if f.name ∈ seen then .error (.duplicateField f.name)
      else f.put source r a >>= rec.decodeFields source stop fields (f.name :: seen) := by
  rw [decodeFields, h]
  simp only [List.contains_iff_mem]

end Steps

/-! ### Own fields -/

/-- The fields of an object whose keys are those of a record. -/
def own (rec : Record α) (fields : List (Option String × Reading)) :
    List (Option String × Reading) :=
  fields.filter fun e => e.1.any fun key => (rec.field? key).isSome

/-- All keys can be read, and whatever stands under the keys of no field is spare. -/
def Spares (rec : Record α) (spare : Reading → Prop) (fields : List (Option String × Reading)) :
    Prop :=
  ∀ e ∈ fields, ∃ key, e.1 = some key ∧ (rec.field? key = none → spare e.2)

section Own

variable {rec : Record α} {spare : Reading → Prop} {key : String} {r : Reading}
  {fields : List (Option String × Reading)}

theorem own_cons_of_none (h : rec.field? key = none) :
    rec.own ((some key, r) :: fields) = rec.own fields :=
  List.filter_cons_of_neg (by simp [h])

theorem own_cons_of_some {f : Field α} (h : rec.field? key = some f) :
    rec.own ((some key, r) :: fields) = (some key, r) :: rec.own fields :=
  List.filter_cons_of_pos (by simp [h])

theorem spares_cons_of_none (h : rec.field? key = none) :
    rec.Spares spare ((some key, r) :: fields) ↔ spare r ∧ rec.Spares spare fields := by
  simp [Spares, h]

theorem spares_cons_of_some {f : Field α} (h : rec.field? key = some f) :
    rec.Spares spare ((some key, r) :: fields) ↔ rec.Spares spare fields := by
  simp [Spares, h]

end Own

/-- **An object is decoded from the own fields of the record**, and the others are passed
over. -/
theorem decodeFields_eq_ok_iff {rec : Record α} {source : Source} {stop : Stop}
    {fields : List (Option String × Reading)} {seen : List String} {a a' : α} :
    rec.decodeFields source stop fields seen a = .ok a' ↔
      stop = .closed ∧ rec.Spares (fun r => source.skip r = .ok ()) fields ∧
        rec.decodeFields source .closed (rec.own fields) seen a = .ok a' := by
  induction fields generalizing seen a with
  | nil => simp [own, Spares, decodeFields_nil_eq_ok_iff]
  | cons e rest ih =>
    obtain ⟨_ | key, r⟩ := e
    · exact ⟨nofun, fun h => nomatch h.2.1 _ List.mem_cons_self⟩
    cases hf : rec.field? key with
    | none =>
      rw [decodeFields_cons_of_none hf, own_cons_of_none hf, spares_cons_of_none hf,
        bind_eq_ok_iff]
      constructor
      · rintro ⟨⟨⟩, hskip, h⟩
        obtain ⟨hstop, hrest, hown⟩ := ih.mp h
        exact ⟨hstop, ⟨hskip, hrest⟩, hown⟩
      · rintro ⟨hstop, ⟨hskip, hrest⟩, hown⟩
        exact ⟨(), hskip, ih.mpr ⟨hstop, hrest, hown⟩⟩
    | some f =>
      rw [decodeFields_cons_of_some hf, own_cons_of_some hf, decodeFields_cons_of_some hf,
        spares_cons_of_some hf]
      split
      · exact ⟨nofun, fun h => nomatch h.2.2⟩
      · rw [bind_eq_ok_iff, bind_eq_ok_iff]
        constructor
        · rintro ⟨b, hput, h⟩
          obtain ⟨hstop, hrest, hown⟩ := ih.mp h
          exact ⟨hstop, hrest, b, hput, hown⟩
        · rintro ⟨hstop, hrest, b, hput, hown⟩
          exact ⟨b, hput, ih.mpr ⟨hstop, hrest, hown⟩⟩

/-- Two lists of names that were seen agree on a record if they hold the same of its keys. -/
def Agree (rec : Record α) (seen seen' : List String) : Prop :=
  ∀ name ∈ rec.keys, name ∈ seen ↔ name ∈ seen'

section Agree

variable {rec : Record α} {seen seen' : List String} {name : String}

theorem Agree.refl (rec : Record α) (seen : List String) : rec.Agree seen seen :=
  fun _ _ => Iff.rfl

/-- A name that is seen by both is no difference. -/
theorem Agree.cons (h : rec.Agree seen seen') (name : String) :
    rec.Agree (name :: seen) (name :: seen') :=
  fun other hother =>
    List.mem_cons.trans ((or_congr_right (h other hother)).trans List.mem_cons.symm)

/-- Neither is a name that is no key. -/
theorem Agree.cons_of_notMem (h : rec.Agree seen seen') (hname : name ∉ rec.keys) :
    rec.Agree (name :: seen) seen' := by
  intro other hother
  have hne : other ≠ name := fun heq => hname (heq ▸ hother)
  exact List.mem_cons.trans ((or_iff_right hne).trans (h other hother))

/-- The same fields are missing. -/
theorem Agree.present_iff (h : rec.Agree seen seen') :
    (∀ f ∈ rec.fields, f.presence = .required → f.name ∈ seen) ↔
      ∀ f ∈ rec.fields, f.presence = .required → f.name ∈ seen' :=
  forall₂_congr fun f hf => imp_congr_right fun _ => h f.name (name_mem_keys hf)

end Agree

/-- **The own fields of two records decode to both iff those of each decode to it**, if they lie
apart. The order of the fields does not matter. -/
theorem decodeFields_own_and_eq_ok_iff {first : Record α} {second : Record β}
    (hapart : first.Apart second) (source : Source) (fields : List (Option String × Reading))
    {seen seen₁ seen₂ : List String} (hseen₁ : first.Agree seen seen₁)
    (hseen₂ : second.Agree seen seen₂) {a a' : α} {b b' : β} :
    (first.and second).decodeFields source .closed ((first.and second).own fields) seen (a, b) =
        .ok (a', b') ↔
      first.decodeFields source .closed (first.own fields) seen₁ a = .ok a' ∧
        second.decodeFields source .closed (second.own fields) seen₂ b = .ok b' := by
  induction fields generalizing seen seen₁ seen₂ a b with
  | nil =>
    change _ = Except.ok _ ↔ first.decodeFields source .closed [] seen₁ a = .ok a' ∧
      second.decodeFields source .closed [] seen₂ b = .ok b'
    simp only [own, List.filter_nil, decodeFields_nil_eq_ok_iff, Record.and,
      List.forall_mem_append, List.forall_mem_map, Field.inFirst, Field.inSecond, Prod.mk.injEq,
      true_and]
    rw [hseen₁.present_iff, hseen₂.present_iff]
    exact and_and_and_comm
  | cons e rest ih =>
    obtain ⟨_ | key, r⟩ := e
    · exact ih hseen₁ hseen₂
    have hand := field?_and first second key
    -- at most one of the records has the key, and only there it counts as seen afterwards
    cases hf : first.field? key with
    | some f =>
      have hname : f.name ∈ first.keys := name_mem_keys (mem_of_field? hf).1
      have hseen : (f.inFirst : Field (α × β)).name ∈ seen ↔ f.name ∈ seen₁ :=
        hseen₁ f.name hname
      rw [hf] at hand
      rw [own_cons_of_some hand, decodeFields_cons_of_some hand, own_cons_of_some hf,
        decodeFields_cons_of_some hf, own_cons_of_none (hapart.field?_eq_none hf)]
      by_cases hrepeat : f.name ∈ seen₁
      · rw [if_pos (hseen.mpr hrepeat), if_pos hrepeat]
        exact ⟨nofun, fun h => nomatch h.1⟩
      · rw [if_neg (mt hseen.mp hrepeat), if_neg hrepeat]
        change (((f.put source r a).map (·, b)).bind _) = _ ↔ _
        cases f.put source r a with
        | error e => exact ⟨nofun, fun h => nomatch h.1⟩
        | ok put =>
          exact ih (hseen₁.cons f.name) (hseen₂.cons_of_notMem (hapart f.name hname))
    | none =>
      cases hg : second.field? key with
      | some g =>
        have hname : g.name ∈ second.keys := name_mem_keys (mem_of_field? hg).1
        have hseen : (g.inSecond : Field (α × β)).name ∈ seen ↔ g.name ∈ seen₂ :=
          hseen₂ g.name hname
        rw [hf, hg] at hand
        rw [own_cons_of_some hand, decodeFields_cons_of_some hand, own_cons_of_none hf,
          own_cons_of_some hg, decodeFields_cons_of_some hg]
        by_cases hrepeat : g.name ∈ seen₂
        · rw [if_pos (hseen.mpr hrepeat), if_pos hrepeat]
          exact ⟨nofun, fun h => nomatch h.2⟩
        · rw [if_neg (mt hseen.mp hrepeat), if_neg hrepeat]
          change (((g.put source r b).map (a, ·)).bind _) = _ ↔ _
          cases g.put source r b with
          | error e => exact ⟨nofun, fun h => nomatch h.2⟩
          | ok put =>
            have hother : g.name ∉ first.keys := fun hmem => hapart g.name hmem hname
            exact ih (hseen₁.cons_of_notMem hother) (hseen₂.cons g.name)
      | none =>
        rw [hf, hg] at hand
        rw [own_cons_of_none hand, own_cons_of_none hf, own_cons_of_none hg]
        exact ih hseen₁ hseen₂

/-! ### What own fields hold -/

/-- The fields of an object under the names of a field. -/
def among (f : Field α) (fields : List (Option String × Reading)) :
    List (Option String × Reading) :=
  fields.filter fun e => e.1.any f.answersTo

section Gathers

/-- **What the own fields of an object hold**: this is decoded from them, in whatever order they
stand. -/
def Gathers (rec : Record α) (source : Source) (fields : List (Option String × Reading))
    (a : α) : Prop :=
  rec.decodeFields source .closed (rec.own fields) [] rec.blank = .ok a

variable {source : Source} {stop : Stop} {fields : List (Option String × Reading)}

/-- An object decodes to what its own fields hold. -/
theorem decodeFields_eq_ok_iff_gathers {rec : Record α} {a : α} :
    rec.decodeFields source stop fields [] rec.blank = .ok a ↔
      stop = .closed ∧ rec.Spares (fun r => source.skip r = .ok ()) fields ∧
        rec.Gathers source fields a :=
  decodeFields_eq_ok_iff

/-- **Two records that lie apart may share an object**: each finds its own fields there. -/
theorem gathers_and_iff {first : Record α} {second : Record β} (hapart : first.Apart second)
    {a : α} {b : β} :
    (first.and second).Gathers source fields (a, b) ↔
      first.Gathers source fields a ∧ second.Gathers source fields b :=
  decodeFields_own_and_eq_ok_iff hapart source fields (.refl first []) (.refl second [])

theorem field?_single (f : Field α) (blank : α) (key : String) :
    (Record.mk blank [f]).field? key = if f.answersTo key then some f else none := by
  rw [field?, List.find?_cons]
  cases f.answersTo key <;> rfl

/-- The own fields of a single field are those under its names. -/
theorem own_single (f : Field α) (blank : α) (fields : List (Option String × Reading)) :
    (Record.mk blank [f]).own fields = among f fields := by
  refine List.filter_congr fun e _ => ?_
  obtain ⟨_ | key, r⟩ := e
  · rfl
  · simp only [Option.any_some, field?_single]
    cases f.answersTo key <;> rfl

/-- **A single field** is found once, or is missing and may be left out. -/
theorem gathers_single_iff {f : Field α} {blank a : α} :
    (Record.mk blank [f]).Gathers source fields a ↔
      (among f fields = [] ∧ f.presence ≠ .required ∧ blank = a) ∨
        ∃ key r, among f fields = [(some key, r)] ∧
          f.put source r blank = .ok a := by
  have hown := own_single f blank fields
  have hfield : ∀ e ∈ among f fields,
      ∃ key, e.1 = some key ∧ (Record.mk blank [f]).field? key = some f := by
    intro e he
    obtain ⟨key, hkey, hanswers⟩ := (Option.any_eq_true ..).mp (List.mem_filter.mp he).2
    exact ⟨key, hkey, by rw [field?_single, if_pos hanswers]⟩
  rw [Gathers, hown]
  generalize among f fields = found at hfield
  match found with
  | [] =>
    rw [decodeFields_nil_eq_ok_iff]
    constructor
    · rintro ⟨-, hpresent, rfl⟩
      exact .inl ⟨rfl, fun h => List.not_mem_nil (hpresent f List.mem_cons_self h), rfl⟩
    · rintro (⟨-, hfree, rfl⟩ | ⟨key, r, h, -⟩)
      · refine ⟨rfl, fun g hg h => ?_, rfl⟩
        obtain rfl := List.mem_singleton.mp hg
        exact absurd h hfree
      · cases h
  | [(name, r)] =>
    obtain ⟨key, rfl, hf⟩ := hfield _ List.mem_cons_self
    rw [decodeFields_cons_of_some hf, if_neg List.not_mem_nil, bind_eq_ok_iff]
    constructor
    · rintro ⟨put, hput, h⟩
      obtain ⟨-, -, rfl⟩ := decodeFields_nil_eq_ok_iff.mp h
      exact .inr ⟨key, r, rfl, hput⟩
    · rintro (⟨h, -⟩ | ⟨_, _, h, hput⟩)
      · cases h
      · cases h
        refine ⟨a, hput, decodeFields_nil_eq_ok_iff.mpr ⟨rfl, fun g hg _ => ?_, rfl⟩⟩
        exact List.mem_singleton.mpr (congrArg Field.name (List.mem_singleton.mp hg))
  | (name, r) :: (name', r') :: rest =>
    obtain ⟨key, rfl, hf⟩ := hfield _ List.mem_cons_self
    obtain ⟨key', rfl, hf'⟩ := hfield _ (List.mem_cons_of_mem _ List.mem_cons_self)
    -- the second one is a repetition, also where it goes by another of the names
    rw [decodeFields_cons_of_some hf, if_neg List.not_mem_nil, bind_eq_ok_iff]
    simp [decodeFields_cons_of_some hf']

end Gathers

/-! ### Fields that are left to others -/

/-- The fields of an object that belong to others. -/
def foreign (rec : Record α) (fields : List (Option String × Reading)) :
    List (Option String × Reading) :=
  fields.filter fun e => e.1.all fun key => (rec.field? key).isNone

/-- **The own fields are decoded as if there were no others**, and the others are set aside in
their order. -/
theorem splitFields_eq_ok_iff {rec : Record α} {source : Source} {stop : Stop}
    {fields others : List (Option String × Reading)} {seen : List String} {a a' : α} :
    rec.splitFields source stop fields seen a = .ok (a', others) ↔
      stop = .closed ∧ rec.Spares (fun r => source.setAside r = .ok ()) fields ∧
        rec.decodeFields source .closed (rec.own fields) seen a = .ok a' ∧
        others = rec.foreign fields := by
  induction fields generalizing seen a others with
  | nil =>
    have hend : rec.splitFields source stop [] seen a =
        rec.decodeFields source stop [] seen a >>= fun b => .ok (b, []) := by
      rw [splitFields, decodeFields]
      cases stop <;> cases rec.checkMissing seen <;> rfl
    rw [hend, bind_eq_ok_iff]
    constructor
    · rintro ⟨b, h, hb⟩
      cases hb
      obtain ⟨hstop, -, h⟩ := decodeFields_eq_ok_iff.mp h
      exact ⟨hstop, nofun, h, rfl⟩
    · rintro ⟨hstop, hspare, h, rfl⟩
      exact ⟨a', decodeFields_eq_ok_iff.mpr ⟨hstop, nofun, h⟩, rfl⟩
  | cons e rest ih =>
    obtain ⟨_ | key, r⟩ := e
    · exact ⟨nofun, fun h => nomatch h.2.1 _ List.mem_cons_self⟩
    cases hf : rec.field? key with
    | none =>
      have hforeign : rec.foreign ((some key, r) :: rest) = (some key, r) :: rec.foreign rest :=
        List.filter_cons_of_pos (by simp [hf])
      rw [splitFields, hf, own_cons_of_none hf, spares_cons_of_none hf, hforeign]
      constructor
      · intro h
        obtain ⟨⟨⟩, hskip, h⟩ := bind_eq_ok_iff.mp h
        obtain ⟨⟨b, bs⟩, hsplit, hb⟩ := bind_eq_ok_iff.mp h
        cases hb
        obtain ⟨hstop, hrest, hown, rfl⟩ := ih.mp hsplit
        exact ⟨hstop, ⟨hskip, hrest⟩, hown, rfl⟩
      · rintro ⟨hstop, ⟨hskip, hrest⟩, hown, rfl⟩
        have hsplit := ih.mpr ⟨hstop, hrest, hown, rfl⟩
        exact bind_eq_ok_iff.mpr ⟨(), hskip, bind_eq_ok_iff.mpr ⟨_, hsplit, rfl⟩⟩
    | some f =>
      have hforeign : rec.foreign ((some key, r) :: rest) = rec.foreign rest :=
        List.filter_cons_of_neg (by simp [hf])
      rw [splitFields, hf, own_cons_of_some hf, decodeFields_cons_of_some hf,
        spares_cons_of_some hf, hforeign]
      simp only [List.contains_iff_mem]
      split
      · exact ⟨nofun, fun h => nomatch h.2.2.1⟩
      · rw [bind_eq_ok_iff, bind_eq_ok_iff]
        constructor
        · rintro ⟨b, hput, h⟩
          obtain ⟨hstop, hrest, hown, rfl⟩ := ih.mp h
          exact ⟨hstop, hrest, ⟨b, hput, hown⟩, rfl⟩
        · rintro ⟨hstop, hrest, ⟨b, hput, hown⟩, rfl⟩
          exact ⟨b, hput, ih.mpr ⟨hstop, hrest, hown, rfl⟩⟩

end Record

/-! ### Tags -/

variable {α : Type}

/-- The fields of an object beside its tag. -/
def beside (tag : String) (fields : List (Option String × Reading)) :
    List (Option String × Reading) :=
  fields.filter fun e => e.1 != some tag

/-- All keys can be read, and whatever stands beside the tag can be set aside. -/
def SetsAside (tag : String) (source : Source) (fields : List (Option String × Reading)) : Prop :=
  ∀ e ∈ fields, ∃ key, e.1 = some key ∧ (key ≠ tag → source.setAside e.2 = .ok ())

section Tags

variable {tag : String} {variants : List (Variant α)} {source : Source} {stop : Stop}
  {fields others : List (Option String × Reading)} {v : Variant α}

theorem findTag_nil_eq_ok_iff {found : Option (Variant α)} :
    findTag tag variants source stop [] found = .ok (v, others) ↔
      stop = .closed ∧ others = [] ∧ found = some v := by
  constructor
  · intro h
    cases stop with
    | cut afterComma read skip => cases found <;> cases h
    | closed =>
      cases found <;> cases h
      exact ⟨rfl, rfl, rfl⟩
  · rintro ⟨rfl, rfl, rfl⟩
    rfl

/-- A field beside the tag is set aside. -/
theorem findTag_cons_of_ne {key : String} {r : Reading} {found : Option (Variant α)}
    (h : key ≠ tag) :
    findTag tag variants source stop ((some key, r) :: fields) found =
      source.setAside r >>= fun _ => findTag tag variants source stop fields found >>=
        fun p => .ok (p.1, (some key, r) :: p.2) := by
  cases found <;> rw [findTag, if_neg h] <;> rfl

/-- **The tag is found wherever it stands**, if it stands in one place only, and the other fields
are set aside in their order. -/
theorem findTag_eq_ok_iff {found : Option (Variant α)} :
    findTag tag variants source stop fields found = .ok (v, others) ↔
      stop = .closed ∧ SetsAside tag source fields ∧ others = beside tag fields ∧
        match found with
        | some w => under tag fields = [] ∧ w = v
        | none => ∃ r, under tag fields = [r] ∧ decodeTag variants source r = .ok v := by
  induction fields generalizing found others with
  | nil =>
    rw [findTag_nil_eq_ok_iff]
    cases found <;> simp [SetsAside, beside, under]
  | cons e rest ih =>
    obtain ⟨_ | key, r⟩ := e
    · exact ⟨nofun, fun h => nomatch h.2.1 _ List.mem_cons_self⟩
    rw [under_cons]
    by_cases heq : key = tag
    · subst heq
      have hbeside : beside key ((some key, r) :: rest) = beside key rest :=
        List.filter_cons_of_neg (by simp)
      have haside : SetsAside key source ((some key, r) :: rest) ↔ SetsAside key source rest := by
        simp [SetsAside]
      rw [if_pos rfl, hbeside, haside]
      cases found with
      | some w =>
        rw [findTag, if_pos rfl]
        exact ⟨nofun, fun h => nomatch h.2.2.2.1⟩
      | none =>
        rw [findTag, if_pos rfl]
        constructor
        · intro h
          obtain ⟨w, hw, h⟩ := bind_eq_ok_iff.mp h
          obtain ⟨hstop, hrest, hothers, hnone, rfl⟩ := ih.mp h
          exact ⟨hstop, hrest, hothers, r, congrArg _ hnone, hw⟩
        · rintro ⟨hstop, hrest, hothers, _, hunder, hw⟩
          obtain ⟨rfl, hnone⟩ := List.cons_eq_cons.mp hunder
          exact bind_eq_ok_iff.mpr ⟨v, hw, ih.mpr ⟨hstop, hrest, hothers, hnone, rfl⟩⟩
    · have hbeside : beside tag ((some key, r) :: rest) = (some key, r) :: beside tag rest :=
        List.filter_cons_of_pos (by simp [heq])
      have haside : SetsAside tag source ((some key, r) :: rest) ↔
          source.setAside r = .ok () ∧ SetsAside tag source rest := by
        simp [SetsAside, heq]
      have hne : (some key, r).1 ≠ some tag := fun h => heq (Option.some.inj h)
      rw [findTag_cons_of_ne heq, if_neg hne, hbeside, haside]
      constructor
      · intro h
        obtain ⟨⟨⟩, hr, h⟩ := bind_eq_ok_iff.mp h
        obtain ⟨⟨w, ws⟩, hfind, hw⟩ := bind_eq_ok_iff.mp h
        cases hw
        obtain ⟨hstop, hrest, rfl, htag⟩ := ih.mp hfind
        exact ⟨hstop, ⟨hr, hrest⟩, rfl, htag⟩
      · rintro ⟨hstop, ⟨hr, hrest⟩, rfl, htag⟩
        have hfind := ih.mpr ⟨hstop, hrest, rfl, htag⟩
        exact bind_eq_ok_iff.mpr ⟨(), hr, bind_eq_ok_iff.mpr ⟨_, hfind, rfl⟩⟩

end Tags

end Json

end Dialogue
