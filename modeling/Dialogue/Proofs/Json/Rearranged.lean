import Dialogue.Proofs.Json.Carries

/-!
# Decoding rearranged objects

A record carries likenesses over, one for each field (`Dialogue.Json.Record.Carries`): it is
decoded from like objects, and from like arrays, to the same. A single field is found in the one
object as it is in the other (`Dialogue.Json.Record.carries_single`), and two records that lie
apart do not get in each other's way, whichever order the keys stand in
(`Dialogue.Json.Record.Carries.and`).

So are records that share their object with others (`Dialogue.Json.Record.Carries.split`), and
choices with a tag, which is found wherever it stands (`Dialogue.Json.carries_tagged`).
-/

namespace Dialogue

namespace Json

variable {α β : Type}

/-! ### Records -/

namespace Record

/-- **A record carries likenesses over**, one for each field, if like objects hold the same for
it and like items are decoded to the same, up to a relation. -/
structure Carries (rec : Record α) (source : Source) (likes : String → Likeness)
    (R : α → α → Prop) : Prop where
  objects : ∀ ⦃fields fields' : List (Option String × Reading)⦄ ⦃a : α⦄,
    FoundAlike rec likes fields fields' → rec.Gathers source fields a →
      ∃ a', rec.Gathers source fields' a' ∧ R a a'
  arrays : ∀ ⦃items items' : List Reading⦄ ⦃a : α⦄,
    ItemsAlike likes (rec.fields.map (·.name)) items items' →
      Record.decodeItems source .closed rec.fields items rec.blank = .ok a →
        ∃ a', Record.decodeItems source .closed rec.fields items' rec.blank = .ok a' ∧ R a a'

section Single

variable {f : Field α} {blank : α} {likes : String → Likeness}
  {fields fields' : List (Option String × Reading)}

theorem answersTo_iff {key : String} : f.answersTo key = true ↔ key ∈ f.name :: f.aliases := by
  rw [Field.answersTo, Bool.or_eq_true, beq_iff_eq, List.contains_iff_mem, List.mem_cons,
    eq_comm]

theorem under_among {key : String} (hkey : key ∈ f.name :: f.aliases)
    (fields : List (Option String × Reading)) : under key (among f fields) = under key fields :=
  under_filter (fun _ => answersTo_iff.mpr hkey) fields

/-- A key under which a field is found in the second object is one in the first. -/
theorem exists_mem_among (h : FoundAlike (Record.mk blank [f]) likes fields fields')
    {e : Option String × Reading} (he : e ∈ among f fields') :
    ∃ r, (e.1, r) ∈ among f fields := by
  obtain ⟨name, s⟩ := e
  obtain ⟨key, rfl, hkey⟩ := (Option.any_eq_true ..).mp (List.mem_filter.mp he).2
  have hlike := h f List.mem_cons_self key (answersTo_iff.mp hkey)
  have hs : s ∈ under key fields' := mem_under.mpr (List.mem_filter.mp he).1
  cases hunder : under key fields with
  | nil =>
    rw [hunder] at hlike
    rw [List.forall₂_nil_left_iff.mp hlike] at hs
    exact absurd hs List.not_mem_nil
  | cons r rest =>
    have hr : r ∈ under key fields := hunder ▸ List.mem_cons_self
    exact ⟨r, List.mem_filter.mpr ⟨mem_under.mp hr, hkey⟩⟩

/-- A field that is missing in one object is missing in the other. -/
theorem among_eq_nil (h : FoundAlike (Record.mk blank [f]) likes fields fields')
    (hnone : among f fields = []) : among f fields' = [] := by
  refine List.eq_nil_iff_forall_not_mem.mpr fun e he => ?_
  obtain ⟨r, hr⟩ := exists_mem_among h he
  exact List.not_mem_nil (hnone ▸ hr)

/-- A field that is found once in one object is found once in the other, under the same key. -/
theorem among_eq_singleton (h : FoundAlike (Record.mk blank [f]) likes fields fields')
    {key : String} {r : Reading} (hfound : among f fields = [(some key, r)]) :
    ∃ r', likes f.name r r' ∧ among f fields' = [(some key, r')] := by
  have hmem : (some key, r) ∈ among f fields := hfound ▸ List.mem_singleton_self _
  have hnames : key ∈ f.name :: f.aliases := answersTo_iff.mp (List.mem_filter.mp hmem).2
  have hlike := h f List.mem_cons_self key hnames
  rw [← under_among hnames fields, hfound, under_cons, if_pos rfl] at hlike
  obtain ⟨r', rest, hr', hrest, hunder⟩ := List.forall₂_cons_left_iff.mp hlike
  obtain rfl := List.forall₂_nil_left_iff.mp hrest
  -- the second object has the field under no other key, so that is all of it
  have hkeys : ∀ e ∈ among f fields', e.1 = some key := by
    intro e he
    obtain ⟨s, hs⟩ := exists_mem_among h he
    exact (Prod.mk.inj (List.mem_singleton.mp (hfound ▸ hs))).1
  have hall : (among f fields').filter (fun e => e.1 = some key) = among f fields' :=
    List.filter_eq_self.mpr fun e he => decide_eq_true (hkeys e he)
  refine ⟨r', hr', ?_⟩
  rw [← hall, filter_key_eq, under_among hnames, hunder]
  rfl

/-- A field without other names is looked for under its name only. -/
theorem foundAlike_single (hnames : f.aliases = [])
    (h : List.Forall₂ (likes f.name) (under f.name fields) (under f.name fields')) :
    FoundAlike (Record.mk blank [f]) likes fields fields' := by
  intro g hg key hkey
  obtain rfl := List.mem_singleton.mp hg
  rw [hnames] at hkey
  obtain rfl := List.mem_singleton.mp hkey
  exact h

/-- **A single field carries a likeness over** if its decoder does, and if it may be left out. -/
theorem carries_single {source : Source} {R : α → α → Prop}
    (hput : Json.Carries source (likes f.name) (fun source r => f.put source r blank) R)
    (hfree : f.presence ≠ .required → R blank blank) :
    (Record.mk blank [f]).Carries source likes R where
  objects fields fields' a hlike h := by
    rcases gathers_single_iff.mp h with ⟨hnone, hpresence, rfl⟩ | ⟨key, r, hfound, ha⟩
    · exact ⟨blank, gathers_single_iff.mpr (.inl ⟨among_eq_nil hlike hnone, hpresence, rfl⟩),
        hfree hpresence⟩
    · obtain ⟨r', hr', hfound'⟩ := among_eq_singleton hlike hfound
      obtain ⟨a', ha', hR⟩ := hput hr' ha
      exact ⟨a', gathers_single_iff.mpr (.inr ⟨key, r', hfound', ha'⟩), hR⟩
  arrays items items' a hlike h := by
    cases hlike with
    | nil =>
      refine ⟨a, h, ?_⟩
      cases hpresence : f.presence with
      | defaulted =>
        rw [Record.decodeItems, hpresence] at h
        obtain rfl := Except.ok.inj h
        exact hfree (by rw [hpresence]; exact Presence.noConfusion)
      | required | nullable =>
        rw [Record.decodeItems, hpresence] at h
        cases h
    | cons head tail =>
      cases tail
      obtain ⟨b, hb, h⟩ := bind_eq_ok_iff.mp h
      obtain rfl := Except.ok.inj h
      obtain ⟨b', hb', hR⟩ := hput head hb
      exact ⟨b', bind_eq_ok_iff.mpr ⟨b', hb', rfl⟩, hR⟩

/-- A field whose decoder tells all readings apart is told apart. -/
theorem carries_same {source : Source} (h : likes f.name = Eq) :
    (Record.mk blank [f]).Carries source likes Eq :=
  carries_single (h ▸ carries_eq source _) fun _ => rfl

end Single

section And

variable {first : Record α} {second : Record β} {source : Source} {likes : String → Likeness}

/-- What two records find is alike if what each of them finds is. -/
theorem foundAlike_and_iff {fields fields' : List (Option String × Reading)} :
    FoundAlike (first.and second) likes fields fields' ↔
      FoundAlike first likes fields fields' ∧ FoundAlike second likes fields fields' := by
  rw [FoundAlike, Record.and, List.forall_mem_append, List.forall_mem_map, List.forall_mem_map]
  rfl

/-- Without the fields of the first record objects are still alike to the reader of the
second. -/
theorem fieldsAlike_filter {spare : Reading → Prop}
    {fields fields' : List (Option String × Reading)}
    (h : FieldsAlike (first.and second) likes spare fields fields')
    {p : Option String × Reading → Bool} (hp : ∀ key ∈ second.keys, ∀ r, p (some key, r) = true) :
    FieldsAlike second likes (fun _ => True) (fields.filter p) (fields'.filter p) := by
  refine ⟨fun f hf key hkey => ?_, fun e he => ?_⟩
  · have hmem : key ∈ second.keys := List.mem_flatMap.mpr ⟨f, hf, hkey⟩
    rw [under_filter (hp key hmem), under_filter (hp key hmem)]
    exact (foundAlike_and_iff.mp h.found).2 f hf key hkey
  · obtain ⟨key, hkey, -⟩ := h.others e (List.mem_of_mem_filter he)
    exact ⟨key, hkey, fun _ => trivial⟩

/-- Items are decoded as the fields of a second record beside what was decoded before. -/
theorem decodeItems_inSecond (fields : List (Field β)) (items : List Reading) (a : α) (b : β) :
    Record.decodeItems source .closed (fields.map Field.inSecond) items (a, b) =
      (Record.decodeItems source .closed fields items b).map (a, ·) := by
  induction fields generalizing items b with
  | nil => cases items <;> cases source <;> rfl
  | cons f rest ih =>
    cases items with
    | nil =>
      change (if f.presence == .defaulted then _ else _) = Except.map _ (if _ then _ else _)
      split
      · exact ih [] b
      · rfl
    | cons item items =>
      change (f.put source item b).map (a, ·) >>= _ = Except.map _ (f.put source item b >>= _)
      cases f.put source item b with
      | error e => rfl
      | ok put => exact ih items put

/-- **Items are decoded as the fields of one record and then of another.** -/
theorem decodeItems_and_eq_ok_iff {fields : List (Field α)} {fields' : List (Field β)}
    {items : List Reading} {a a' : α} {b b' : β} :
    Record.decodeItems source .closed
        (fields.map Field.inFirst ++ fields'.map Field.inSecond) items (a, b) = .ok (a', b') ↔
      Record.decodeItems source .closed fields (items.take fields.length) a = .ok a' ∧
        Record.decodeItems source .closed fields' (items.drop fields.length) b = .ok b' := by
  induction fields generalizing items a with
  | nil =>
    rw [List.map_nil, List.nil_append, decodeItems_inSecond]
    change _ ↔ Except.ok a = .ok a' ∧ Record.decodeItems source .closed fields' items b = .ok b'
    cases Record.decodeItems source .closed fields' items b with
    | error e => exact ⟨nofun, fun h => nomatch h.2⟩
    | ok put => simp [Except.map]
  | cons f rest ih =>
    cases items with
    | nil =>
      have hrest := @ih [] a
      rw [List.take_nil, List.drop_nil] at hrest ⊢
      change (if f.presence == .defaulted then _ else _) = _ ↔ (if _ then _ else _) = _ ∧ _
      split
      · exact hrest
      · exact ⟨nofun, fun h => nomatch h.1⟩
    | cons item items =>
      change (f.put source item a).map (·, b) >>= _ = _ ↔ f.put source item a >>= _ = _ ∧ _
      cases f.put source item a with
      | error e => exact ⟨nofun, fun h => nomatch h.1⟩
      | ok put => exact ih

/-- Like items for the fields of two records are like items for each. -/
theorem itemsAlike_append {names names' : List String} {items items' : List Reading}
    (h : ItemsAlike likes (names ++ names') items items') :
    ItemsAlike likes names (items.take names.length) (items'.take names.length) ∧
      ItemsAlike likes names' (items.drop names.length) (items'.drop names.length) := by
  induction names generalizing items items' with
  | nil => exact ⟨.nil [], h⟩
  | cons name rest ih =>
    cases h with
    | nil => exact ⟨.nil _, .nil _⟩
    | cons head tail => exact ⟨.cons head (ih tail).1, (ih tail).2⟩

/-- **Two records that lie apart carry their likenesses over together.** -/
theorem Carries.and {R : α → α → Prop} {S : β → β → Prop} (hfirst : first.Carries source likes R)
    (hsecond : second.Carries source likes S) (hapart : first.Apart second) :
    (first.and second).Carries source likes fun p p' => R p.1 p'.1 ∧ S p.2 p'.2 where
  objects fields fields' p hlike h := by
    obtain ⟨ha, hb⟩ := (gathers_and_iff hapart).mp h
    obtain ⟨hlike₁, hlike₂⟩ := foundAlike_and_iff.mp hlike
    obtain ⟨a', ha', hR⟩ := hfirst.objects hlike₁ ha
    obtain ⟨b', hb', hS⟩ := hsecond.objects hlike₂ hb
    exact ⟨(a', b'), (gathers_and_iff hapart).mpr ⟨ha', hb'⟩, hR, hS⟩
  arrays items items' p hlike h := by
    obtain ⟨ha, hb⟩ := decodeItems_and_eq_ok_iff.mp h
    have hnames : (first.and second).fields.map (·.name) =
        first.fields.map (·.name) ++ second.fields.map (·.name) := by
      rw [Record.and, List.map_append, List.map_map, List.map_map]
      rfl
    obtain ⟨hlike₁, hlike₂⟩ := itemsAlike_append (hnames ▸ hlike)
    rw [List.length_map] at hlike₁ hlike₂
    obtain ⟨a', ha', hR⟩ := hfirst.arrays hlike₁ ha
    obtain ⟨b', hb', hS⟩ := hsecond.arrays hlike₂ hb
    exact ⟨(a', b'), decodeItems_and_eq_ok_iff.mpr ⟨ha', hb'⟩, hR, hS⟩

theorem Carries.and_eq (hfirst : first.Carries source likes Eq)
    (hsecond : second.Carries source likes Eq) (hapart : first.Apart second) :
    (first.and second).Carries source likes Eq := by
  have hand := hfirst.and hsecond hapart
  have heq : (fun p p' : α × β => p.1 = p'.1 ∧ p.2 = p'.2) = Eq := by
    funext p p'
    exact propext Prod.ext_iff.symm
  rwa [heq] at hand

end And

section Decode

variable {rec : Record α} {source inner : Source} {likes : String → Likeness}
  {spare : Reading → Prop} {R : α → α → Prop}

/-- **A record carries its likeness over**, if the source passes over what is spare. -/
theorem Carries.decode (h : rec.Carries inner likes R) (henter : source.enter = .ok inner)
    (hspare : ∀ r, spare r → inner.skip r = .ok ()) :
    Json.Carries source (RecordAlike rec likes spare) rec.decode R := by
  rintro _ _ a (hlike | hlike) ha
  · obtain ⟨-, -, ha⟩ := decodeFields_eq_ok_iff_gathers.mp ((enter_bind_eq_ok_iff henter).mp ha)
    obtain ⟨a', ha', hR⟩ := h.objects hlike.found ha
    have hothers : rec.Spares (fun r => inner.skip r = .ok ()) _ := fun e he =>
      (hlike.others e he).imp fun key hkey => ⟨hkey.1, fun hnone => hspare _ (hkey.2 hnone)⟩
    have hdecode := decodeFields_eq_ok_iff_gathers.mpr ⟨rfl, hothers, ha'⟩
    exact ⟨a', (enter_bind_eq_ok_iff henter).mpr hdecode, hR⟩
  · obtain ⟨a', ha', hR⟩ := h.arrays hlike ((enter_bind_eq_ok_iff henter).mp ha)
    exact ⟨a', (enter_bind_eq_ok_iff henter).mpr ha', hR⟩

/-- What is made of a record is carried over with it. -/
theorem Carries.into (h : rec.Carries inner likes R) (henter : source.enter = .ok inner)
    (hspare : ∀ r, spare r → inner.skip r = .ok ()) {S : β → β → Prop} {make : α → β}
    (hmake : ∀ a a', R a a' → S (make a) (make a')) :
    Json.Carries source (RecordAlike rec likes spare) (rec.into make) S :=
  (h.decode henter hspare).map hmake

theorem Carries.into_eq {rec : Record α} (h : rec.Carries inner likes Eq)
    (henter : source.enter = .ok inner) (hspare : ∀ r, spare r → inner.skip r = .ok ())
    (make : α → β) : Json.Carries source (RecordAlike rec likes spare) (rec.into make) Eq :=
  h.into henter hspare fun _ _ => congrArg make

end Decode

section Shared

variable {first : Record α} {second : Record β} {source inner : Source}
  {likes : String → Likeness} {spare : Reading → Prop}

/-- **A record that shares its object with another** carries a likeness over, if what is made of
the fields of the other one is carried over with it. -/
theorem Carries.split {γ : Type} {R : α → α → Prop} {S : γ → γ → Prop}
    (hfirst : first.Carries inner likes R) (henter : source.enter = .ok inner)
    (haside : ∀ r, inner.setAside r = .ok ()) (hapart : first.Apart second)
    {finish : α → List (Option String × Reading) → Except DecodeError γ}
    (hfinish : ∀ a a' others others' c, R a a' →
      FieldsAlike second likes (fun _ => True) others others' → finish a others = .ok c →
        ∃ c', finish a' others' = .ok c' ∧ S c c') :
    Json.Carries source (RecordAlike (first.and second) likes spare) (first.split finish) S := by
  intro r r' c hlike hc
  cases hlike with
  | items _ => cases hc
  | @fields fields fields' hlike =>
    obtain ⟨⟨a, others⟩, hsplit, hc⟩ := bind_eq_ok_iff.mp ((enter_bind_eq_ok_iff henter).mp hc)
    obtain ⟨-, -, ha, rfl⟩ := splitFields_eq_ok_iff.mp hsplit
    obtain ⟨a', ha', hR⟩ := hfirst.objects (foundAlike_and_iff.mp hlike.found).1 ha
    -- nothing that the second record reads is taken away by the first
    have hforeign : ∀ key ∈ second.keys, ∀ r : Reading,
        (some key, r).1.all (fun key => (first.field? key).isNone) = true := by
      intro key hkey r
      refine Option.isNone_iff_eq_none.mpr (Option.eq_none_iff_forall_ne_some.mpr fun f hf => ?_)
      exact hapart key (mem_of_field? hf).2 hkey
    obtain ⟨c', hc', hS⟩ := hfinish a a' _ _ c hR (fieldsAlike_filter hlike hforeign) hc
    have hspare : first.Spares (fun r => inner.setAside r = .ok ()) fields' := fun e he =>
      (hlike.others e he).imp fun key hkey => ⟨hkey.1, fun _ => haside e.2⟩
    have hsplit' := splitFields_eq_ok_iff.mpr ⟨rfl, hspare, ha', rfl⟩
    exact ⟨c', (enter_bind_eq_ok_iff henter).mpr (bind_eq_ok_iff.mpr ⟨_, hsplit', hc'⟩), hS⟩

end Shared

end Record

/-! ### Choices with a tag -/

/-- A source that sets all values aside does so with all items. -/
theorem setItemsAside_eq_ok {source : Source} (haside : ∀ r, source.setAside r = .ok ())
    (items : List Reading) : setItemsAside source .closed items = .ok () := by
  induction items with
  | nil => rfl
  | cons item rest ih => exact bind_eq_ok_iff.mpr ⟨(), haside item, ih⟩

section Tagged

variable {rec : Record β} {tag name : String} {variants : List (Variant α)} {v : Variant α}
  {likes : String → Likeness} {spare : Reading → Prop} {R : α → α → Prop} {source inner : Source}

/-- Beside one tag in two objects stand fields that are alike to the reader of its variant. -/
theorem findTag_of_fieldsAlike {fields fields' : List (Option String × Reading)}
    (hlike : FieldsAlike ((Record.text tag).and rec) likes spare fields fields')
    (haside : ∀ r, inner.setAside r = .ok ()) (htag : tag ∉ rec.keys)
    (htext : likes tag = IsText name) (hfind : variants.find? (·.name == name) = some v)
    {w : Variant α} {others : List (Option String × Reading)}
    (hfound : findTag tag variants inner .closed fields none = .ok (w, others)) :
    w = v ∧ ∃ others', findTag tag variants inner .closed fields' none = .ok (v, others') ∧
      FieldsAlike rec likes (fun _ => True) others others' := by
  obtain ⟨-, -, rfl, r, hunder, hr⟩ := findTag_eq_ok_iff.mp hfound
  have hboth : List.Forall₂ (likes tag) (under tag fields) (under tag fields') :=
    (Record.foundAlike_and_iff.mp hlike.found).1 _ List.mem_cons_self tag List.mem_cons_self
  rw [hunder, htext] at hboth
  obtain ⟨_, rest, ⟨rfl, rfl⟩, hrest, hunder'⟩ := List.forall₂_cons_left_iff.mp hboth
  obtain rfl := List.forall₂_nil_left_iff.mp hrest
  obtain rfl : w = v := Except.ok.inj (hr.symm.trans (variant?_eq_ok hfind))
  have hbeside : ∀ key ∈ rec.keys, ∀ r : Reading, ((some key, r).1 != some tag) = true := by
    intro key hkey r
    exact bne_iff_ne.mpr fun heq => htag (Option.some.inj heq ▸ hkey)
  have haside' : SetsAside tag inner fields' := fun e he =>
    (hlike.others e he).imp fun key hkey => ⟨hkey.1, fun _ => haside e.2⟩
  refine ⟨rfl, beside tag fields', ?_, Record.fieldsAlike_filter hlike hbeside⟩
  exact findTag_eq_ok_iff.mpr ⟨rfl, haside', rfl, _, hunder', hr⟩

/-- **A choice with a tag** carries the likeness of the variant that the tag names over. -/
theorem carries_tagged (henter : source.enter = .ok inner)
    (haside : ∀ r, inner.setAside r = .ok ()) (htag : tag ∉ rec.keys)
    (htext : likes tag = IsText name) (hfind : variants.find? (·.name == name) = some v)
    (hcontent : Carries .aside (RecordAlike rec likes fun _ => True)
      (fun _ r => v.decodeAside r) R) :
    Carries source (RecordAlike ((Record.text tag).and rec) likes spare)
      (decodeTagged tag variants) R := by
  intro r r' a hlike ha
  cases hlike with
  | fields hlike =>
    obtain ⟨⟨w, others⟩, hfound, ha⟩ := bind_eq_ok_iff.mp ((enter_bind_eq_ok_iff henter).mp ha)
    obtain ⟨rfl, others', hfound', hothers⟩ :=
      findTag_of_fieldsAlike hlike haside htag htext hfind hfound
    obtain ⟨a', ha', hR⟩ := hcontent (.fields hothers) ha
    exact ⟨a', (enter_bind_eq_ok_iff henter).mpr (bind_eq_ok_iff.mpr ⟨_, hfound', ha'⟩), hR⟩
  | items hlike =>
    have hnames : ((Record.text tag).and rec).fields.map (·.name) =
        tag :: rec.fields.map (·.name) :=
      congrArg (tag :: ·) List.map_map
    rw [hnames] at hlike
    cases hlike with
    | nil =>
      obtain ⟨_, -, ha⟩ := bind_eq_ok_iff.mp ha
      cases ha
    | @cons _ _ item item' rest rest' head tail =>
      obtain ⟨rfl, rfl⟩ : IsText name item item' := htext ▸ head
      obtain ⟨w, hw, ha⟩ := bind_eq_ok_iff.mp ((enter_bind_eq_ok_iff henter).mp ha)
      obtain ⟨-, -, ha⟩ := bind_eq_ok_iff.mp ha
      obtain rfl : w = v := Except.ok.inj (hw.symm.trans (variant?_eq_ok hfind))
      obtain ⟨a', ha', hR⟩ := hcontent (.items tail) ha
      refine ⟨a', (enter_bind_eq_ok_iff henter).mpr (bind_eq_ok_iff.mpr ⟨w, hw, ?_⟩), hR⟩
      exact bind_eq_ok_iff.mpr ⟨(), setItemsAside_eq_ok haside rest', ha'⟩

end Tagged

end Json

end Dialogue
