import Dialogue.Proofs.Json.Likeness

/-!
# Decoders that carry a likeness over

A decoder carries a likeness over (`Dialogue.Json.Carries`) if it makes the same of every
reading that is like one it accepts. Here are scalars, values that are kept, lists, and maps,
which are the same in whatever order their keys stand (`Dialogue.Json.carries_map`). Records and
choices with a tag are in `Dialogue.Proofs.Json.Rearranged`.
-/

namespace Dialogue

namespace Json

variable {α β : Type}

/-! ### Decoders that carry a likeness over -/

/-- **A decoder carries a likeness over** if it makes of every reading that is like an accepted
one the same, up to a relation. -/
def Carries (source : Source) (like : Likeness) (decode : Decoder α) (R : α → α → Prop) : Prop :=
  ∀ ⦃r r' : Reading⦄ ⦃a : α⦄, like r r' → decode source r = .ok a →
    ∃ a', decode source r' = .ok a' ∧ R a a'

/-- Every decoder makes the same of the same. -/
theorem carries_eq (source : Source) (decode : Decoder α) : Carries source Eq decode Eq := by
  rintro r _ a rfl h
  exact ⟨a, h, rfl⟩

theorem carries_isText (source : Source) (text : String) :
    Carries source (IsText text) decodeString fun s s' => s = text ∧ s' = text := by
  rintro _ _ s ⟨rfl, rfl⟩ h
  exact ⟨text, rfl, (Except.ok.inj h).symm, rfl⟩

/-- **A value that is kept** is like every other that is kept of a like reading. -/
theorem carries_value {like : Likeness} (hkept : like.Kept) (depth : Nat) :
    Carries (.text depth) (fun r r' => like r r' ∧ ∃ v', r'.value? depth = .ok v') decodeValue
      fun v v' => like v.reading v'.reading := by
  rintro r r' v ⟨hlike, v', hv'⟩ h
  have hv : r.value? depth = .ok v := by
    rw [decodeValue] at h
    cases hr : r.value? depth with
    | error fault => simp [hr] at h
    | ok w => simpa [hr] using h
  exact ⟨v', by simp [decodeValue, hv'], hkept hlike hv hv'⟩

/-- What is made of a result is carried over with it. -/
theorem Carries.map {source : Source} {like : Likeness} {decode : Decoder α} {R : α → α → Prop}
    (h : Carries source like decode R) {S : β → β → Prop} {make : α → β}
    (hmake : ∀ a a', R a a' → S (make a) (make a')) :
    Carries source like (fun source r => (decode source r).map make) S := by
  intro r r' b hlike hb
  change (decode source r).map make = .ok b at hb
  cases ha : decode source r with
  | error e => simp [ha, Except.map] at hb
  | ok a =>
    obtain ⟨a', ha', hR⟩ := h hlike ha
    rw [ha] at hb
    obtain rfl := Except.ok.inj hb
    exact ⟨make a', congrArg (Except.map make) ha', hmake a a' hR⟩

/-! ### Lists and maps -/

/-- What is inside an array or an object is decoded from the source inside. -/
theorem enter_bind_eq_ok_iff {source inner : Source} (henter : source.enter = .ok inner)
    {f : Source → Except DecodeError α} {a : α} :
    source.enter >>= f = .ok a ↔ f inner = .ok a := by
  rw [henter]
  exact Iff.rfl

/-- Items are decoded one by one. -/
theorem decodeItems_eq_ok_iff {decode : Decoder α} {source : Source} {stop : Stop}
    {items : List Reading} {as : List α} :
    decodeItems decode source stop items = .ok as ↔
      stop = .closed ∧ List.Forall₂ (fun r a => decode source r = .ok a) items as := by
  induction items generalizing as with
  | nil =>
    rw [List.forall₂_nil_left_iff]
    cases stop with
    | cut afterComma read skip => exact ⟨nofun, fun h => nomatch h.1⟩
    | closed => exact ⟨fun h => ⟨rfl, (Except.ok.inj h).symm⟩, fun h => congrArg _ h.2.symm⟩
  | cons item rest ih =>
    rw [decodeItems, bind_eq_ok_iff]
    constructor
    · rintro ⟨a, ha, h⟩
      obtain ⟨bs, hbs, h⟩ := bind_eq_ok_iff.mp h
      obtain rfl := Except.ok.inj h
      obtain ⟨hstop, hrest⟩ := ih.mp hbs
      exact ⟨hstop, .cons ha hrest⟩
    · rintro ⟨hstop, h⟩
      obtain _ | ⟨ha, hrest⟩ := h
      exact ⟨_, ha, bind_eq_ok_iff.mpr ⟨_, ih.mpr ⟨hstop, hrest⟩, rfl⟩⟩

/-- Like items are decoded to the same, one by one. -/
theorem Carries.items {source : Source} {like : Likeness} {decode : Decoder α}
    {R : α → α → Prop} (h : Carries source like decode R) {items items' : List Reading}
    (hlike : List.Forall₂ like items items') {as : List α}
    (has : List.Forall₂ (fun r a => decode source r = .ok a) items as) :
    ∃ as', List.Forall₂ (fun r a => decode source r = .ok a) items' as' ∧
      List.Forall₂ R as as' := by
  induction hlike generalizing as with
  | nil =>
    cases has
    exact ⟨[], .nil, .nil⟩
  | cons hlike _ ih =>
    obtain _ | ⟨ha, has⟩ := has
    obtain ⟨a', ha', hR⟩ := h hlike ha
    obtain ⟨as', has', hRs⟩ := ih has
    exact ⟨a' :: as', .cons ha' has', .cons hR hRs⟩

/-- **A list carries a likeness over** item by item. -/
theorem Carries.list {source inner : Source} {like : Likeness} {decode : Decoder α}
    {R : α → α → Prop} (h : Carries inner like decode R) (henter : source.enter = .ok inner) :
    Carries source (ListAlike like) (decodeList decode) (List.Forall₂ R) := by
  rintro _ _ as ⟨hitems⟩ has
  obtain ⟨-, has⟩ := decodeItems_eq_ok_iff.mp ((enter_bind_eq_ok_iff henter).mp has)
  obtain ⟨as', has', hR⟩ := h.items hitems has
  have hdecode := decodeItems_eq_ok_iff.mpr ⟨rfl, has'⟩
  exact ⟨as', (enter_bind_eq_ok_iff henter).mpr hdecode, hR⟩

/-- A list of what is the same is the same. -/
theorem Carries.list_eq {source inner : Source} {like : Likeness} {decode : Decoder α}
    (h : Carries inner like decode Eq) (henter : source.enter = .ok inner) :
    Carries source (ListAlike like) (decodeList decode) Eq := by
  have hlist := h.list henter
  rwa [List.forall₂_eq_eq_eq] at hlist

/-- Fields are decoded one by one and put into the map in their order. -/
theorem decodeEntries_eq_ok_iff {decode : Decoder α} {source : Source} {stop : Stop}
    {fields : List (Option String × Reading)} {m m' : StringMap α} :
    decodeEntries decode source stop fields m = .ok m' ↔
      stop = .closed ∧ ∃ entries : List (String × α),
        List.Forall₂ (StandsFor fun r a => decode source r = .ok a) fields entries ∧
          m' = entries.foldl (fun m e => m.insert e.1 e.2) m := by
  induction fields generalizing m with
  | nil =>
    simp only [List.forall₂_nil_left_iff, exists_eq_left, List.foldl_nil]
    cases stop with
    | cut afterComma read skip => exact ⟨nofun, fun h => nomatch h.1⟩
    | closed => exact ⟨fun h => ⟨rfl, (Except.ok.inj h).symm⟩, fun h => congrArg _ h.2.symm⟩
  | cons e rest ih =>
    obtain ⟨_ | key, r⟩ := e
    · refine ⟨nofun, fun ⟨_, _, h, _⟩ => ?_⟩
      obtain ⟨_, _, ⟨hkey, -⟩, -⟩ := List.forall₂_cons_left_iff.mp h
      exact nomatch hkey
    rw [decodeEntries, bind_eq_ok_iff]
    constructor
    · rintro ⟨a, ha, h⟩
      obtain ⟨hstop, entries, hrest, rfl⟩ := ih.mp h
      exact ⟨hstop, (key, a) :: entries, .cons ⟨rfl, ha⟩ hrest, rfl⟩
    · rintro ⟨hstop, _, h, rfl⟩
      obtain ⟨⟨_, a⟩, entries, ⟨hkey, ha⟩, hrest, rfl⟩ := List.forall₂_cons_left_iff.mp h
      obtain rfl := Option.some.inj hkey
      exact ⟨a, ha, ih.mpr ⟨hstop, entries, hrest, rfl⟩⟩

/-- A list of things that each stand in a relation to another stands in it to a list. -/
theorem exists_forall₂ {P : α → β → Prop} {l : List α} (h : ∀ a ∈ l, ∃ b, P a b) :
    ∃ bs, List.Forall₂ P l bs := by
  induction l with
  | nil => exact ⟨[], .nil⟩
  | cons a rest ih =>
    obtain ⟨b, hb⟩ := h a List.mem_cons_self
    obtain ⟨bs, hbs⟩ := ih fun d hd => h d (List.mem_cons_of_mem _ hd)
    exact ⟨b :: bs, .cons hb hbs⟩

/-- **A map carries over what it binds**, in whatever order. -/
theorem carries_map {source inner : Source} (decode : Decoder α)
    (henter : source.enter = .ok inner) : Carries source MapAlike (decodeMap decode) Eq := by
  rintro _ _ m @⟨fields, fields', hunder, hkeys⟩ hm
  obtain ⟨-, entries, hentries, rfl⟩ :=
    decodeEntries_eq_ok_iff.mp ((enter_bind_eq_ok_iff henter).mp hm)
  -- every value of the second object stands in the first one too, so it is decoded
  have hfields : ∀ e ∈ fields', ∃ d, StandsFor (fun r a => decode inner r = .ok a) e d := by
    rintro ⟨name, r⟩ he
    obtain ⟨key, rfl⟩ := Option.isSome_iff_exists.mp (hkeys _ he)
    have hr : r ∈ under key fields := hunder key ▸ mem_under.mpr he
    have hbound := (forall₂_bindings key hentries).imp (S := fun r _ => (∃ a, _) ∧ True)
      fun r a ha => ⟨⟨a, ha⟩, trivial⟩
    obtain ⟨a, ha⟩ := ((List.forall₂_and_left _ _).mp hbound).1 r hr
    exact ⟨(key, a), rfl, ha⟩
  obtain ⟨entries', hentries'⟩ := exists_forall₂ hfields
  have hdecode : decodeEntries decode inner .closed fields' .empty =
      .ok (StringMap.ofList entries') :=
    decodeEntries_eq_ok_iff.mpr ⟨rfl, entries', hentries', rfl⟩
  refine ⟨_, (enter_bind_eq_ok_iff henter).mpr hdecode, ?_⟩
  have hunique : Relator.RightUnique fun (r : Reading) (a : α) => decode inner r = .ok a :=
    fun r a b ha hb => Except.ok.inj (ha.symm.trans hb)
  have hbindings (key : String) :
      StringMap.bindings key entries = StringMap.bindings key entries' :=
    hunique.forall₂ (forall₂_bindings key hentries)
      (hunder key ▸ forall₂_bindings key hentries')
  refine StringMap.eq_of_get?_eq fun key => ?_
  change (StringMap.ofList entries).get? key = (StringMap.ofList entries').get? key
  rw [StringMap.get?_ofList, StringMap.get?_ofList, hbindings]

end Json

end Dialogue
