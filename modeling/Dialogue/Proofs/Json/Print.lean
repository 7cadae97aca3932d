import Dialogue.Json.Document
import Dialogue.Proofs.Json.Scan

/-!
# Printing and reading are inverse

A value that is printed and read again is the value that was printed
(`Dialogue.Json.ofText_compact`, `Dialogue.Json.ofText_pretty`). It has to be plain
(`Dialogue.Json.Plain`): its numbers are whole ones of 64 bits. All that the library writes is.

Both printers write the same tokens (`Dialogue.Json.lexemes`), one with blanks between them.
The scanner finds these tokens in what was printed, and the builder makes the value of them
(`Dialogue.Json.foldl_lexemes`).
-/

namespace Dialogue

namespace Json

mutual

/-- All numbers in a value are whole ones of 64 bits, with or without a sign. -/
def Plain : Json → Prop
  | .int n => -2 ^ 63 ≤ n ∧ n < 2 ^ 64
  | .decimal _ => False
  | .arr items => PlainItems items
  | .obj fields => PlainFields fields
  | .null | .bool _ | .str _ => True

/-- All numbers in some items are. -/
def PlainItems : List Json → Prop
  | [] => True
  | item :: rest => item.Plain ∧ PlainItems rest

/-- All numbers in some fields are. -/
def PlainFields : List (String × Json) → Prop
  | [] => True
  | (_, value) :: rest => value.Plain ∧ PlainFields rest

end

/-- A natural number of 64 bits is one. -/
theorem plain_nat {n : Nat} (h : n < 2 ^ 64) : (Json.int n).Plain := by
  constructor <;> omega

@[simp]
theorem plain_ofOption (o : Option String) : (ofOption o).Plain := by
  cases o <;> trivial

theorem plainItems_iff {items : List Json} : PlainItems items ↔ ∀ item ∈ items, item.Plain := by
  induction items with
  | nil => simp [PlainItems]
  | cons item rest ih => rw [PlainItems, ih, List.forall_mem_cons]

/-- Items that are written one by one are plain if each is. -/
theorem plainItems_map {α : Type} {write : α → Json} {as : List α}
    (h : ∀ a ∈ as, (write a).Plain) : PlainItems (as.map write) :=
  plainItems_iff.mpr (List.forall_mem_map.mpr h)

theorem plainFields_iff {fields : List (String × Json)} :
    PlainFields fields ↔ ∀ e ∈ fields, e.2.Plain := by
  induction fields with
  | nil => simp [PlainFields]
  | cons e rest ih => rw [PlainFields, ih, List.forall_mem_cons]

mutual

/-- The tokens of a value. -/
def lexemes : Json → List Token
  | .null => [.scalar .null]
  | .bool b => [.scalar (.bool b)]
  | .int n => [.scalar (.int n)]
  | .decimal literal => [.scalar (.decimal literal)]
  | .str s => [.text (some s)]
  | .arr [] => [.openArray, .closeArray]
  | .arr (item :: rest) => .openArray :: ((lexemes item ++ laterItems rest) ++ [.closeArray])
  | .obj [] => [.openObject, .closeObject]
  | .obj ((key, value) :: rest) =>
    .openObject :: .text (some key) :: .colon ::
      ((lexemes value ++ laterFields rest) ++ [.closeObject])

/-- The tokens of the items of an array after its first. -/
def laterItems : List Json → List Token
  | [] => []
  | item :: rest => .comma :: (lexemes item ++ laterItems rest)

/-- The tokens of the fields of an object after its first. -/
def laterFields : List (String × Json) → List Token
  | [] => []
  | (key, value) :: rest =>
    .comma :: .text (some key) :: .colon :: (lexemes value ++ laterFields rest)

end

/-! ### From tokens to the value -/

/-- The first token of a value begins one. -/
theorem exists_lexemes (v : Json) :
    ∃ t rest, v.lexemes = t :: rest ∧ ∀ outer, ∃ b, Builder.begin? outer t = some b := by
  cases v with
  | arr items => cases items <;> exact ⟨_, _, rfl, fun _ => ⟨_, rfl⟩⟩
  | obj fields => cases fields <;> exact ⟨_, _, rfl, fun _ => ⟨_, rfl⟩⟩
  | _ => exact ⟨_, _, rfl, fun _ => ⟨_, rfl⟩⟩

/-- A value is due after the bracket that opens an array. -/
theorem foldl_firstItem (v : Json) (outer : List Frame) :
    v.lexemes.foldl Builder.step (.firstItem outer) =
      v.lexemes.foldl Builder.step (.value (.item [] :: outer)) := by
  obtain ⟨t, rest, hv, hbegins⟩ := v.exists_lexemes
  obtain ⟨b, hb⟩ := hbegins (.item [] :: outer)
  have hstep : Builder.step (.firstItem outer) t = Builder.step (.value (.item [] :: outer)) t := by
    cases t with
    | closeArray => cases hb
    | _ => simp only [Builder.step, hb, Option.getD_some]
  rw [hv, List.foldl_cons, List.foldl_cons, hstep]

/-- A value is due after a comma in an array. -/
theorem foldl_nextItem (v : Json) (items : List Reading) (outer : List Frame) :
    v.lexemes.foldl Builder.step (.nextItem items outer) =
      v.lexemes.foldl Builder.step (.value (.item items :: outer)) := by
  obtain ⟨t, rest, hv, hbegins⟩ := v.exists_lexemes
  obtain ⟨b, hb⟩ := hbegins (.item items :: outer)
  have hstep : Builder.step (.nextItem items outer) t =
      Builder.step (.value (.item items :: outer)) t := by
    simp only [Builder.step, hb, Option.getD_some]
  rw [hv, List.foldl_cons, List.foldl_cons, hstep]

mutual

/-- **The tokens of a value make up the value.** -/
theorem foldl_lexemes (v : Json) (outer : List Frame) :
    v.lexemes.foldl Builder.step (.value outer) = .supply v.reading outer :=
  match v with
  | .null | .bool _ | .int _ | .decimal _ | .str _ | .arr [] | .obj [] => rfl
  | .arr (item :: rest) => by
    have hopen : Builder.step (.value outer) .openArray = .firstItem outer := rfl
    have hclose : ∀ items, Builder.step (.afterItem items outer) .closeArray =
        .supply (.arr items.reverse .closed) outer := fun _ => rfl
    rw [lexemes, List.foldl_cons, hopen, List.foldl_append, List.foldl_append, foldl_firstItem,
      foldl_lexemes item, Builder.supply, foldl_laterItems rest, List.foldl_cons, hclose,
      List.reverse_append, List.reverse_reverse]
    rfl
  | .obj ((key, value) :: rest) => by
    have hopen : Builder.step (.value outer) .openObject = .firstKey outer := rfl
    have hkey : Builder.step (.firstKey outer) (.text (some key)) = .colon [] key outer := rfl
    have hcolon : Builder.step (.colon [] (some key) outer) .colon =
        .value (.field [] key :: outer) := rfl
    have hclose : ∀ fields, Builder.step (.afterField fields outer) .closeObject =
        .supply (.obj fields.reverse .closed) outer := fun _ => rfl
    rw [lexemes, List.foldl_cons, hopen, List.foldl_cons, hkey, List.foldl_cons, hcolon,
      List.foldl_append, List.foldl_append, foldl_lexemes value, Builder.supply,
      foldl_laterFields rest, List.foldl_cons, hclose, List.reverse_append, List.reverse_reverse]
    rfl

/-- The tokens of further items add the items. -/
theorem foldl_laterItems (rest : List Json) (items : List Reading) (outer : List Frame) :
    (laterItems rest).foldl Builder.step (.afterItem items outer) =
      .afterItem ((itemReadings rest).reverse ++ items) outer :=
  match rest with
  | [] => rfl
  | item :: rest => by
    have hcomma : Builder.step (.afterItem items outer) .comma = .nextItem items outer := rfl
    rw [laterItems, List.foldl_cons, hcomma, List.foldl_append, foldl_nextItem,
      foldl_lexemes item, Builder.supply, foldl_laterItems rest, itemReadings,
      List.reverse_cons, List.append_assoc, List.singleton_append]

/-- The tokens of further fields add the fields. -/
theorem foldl_laterFields (rest : List (String × Json))
    (fields : List (Option String × Reading)) (outer : List Frame) :
    (laterFields rest).foldl Builder.step (.afterField fields outer) =
      .afterField ((fieldReadings rest).reverse ++ fields) outer :=
  match rest with
  | [] => rfl
  | (key, value) :: rest => by
    have hcomma : Builder.step (.afterField fields outer) .comma = .nextKey fields outer := rfl
    have hkey : Builder.step (.nextKey fields outer) (.text (some key)) =
        .colon fields key outer := rfl
    have hcolon : Builder.step (.colon fields (some key) outer) .colon =
        .value (.field fields key :: outer) := rfl
    rw [laterFields, List.foldl_cons, hcomma, List.foldl_cons, hkey, List.foldl_cons, hcolon,
      List.foldl_append, foldl_lexemes value, Builder.supply, foldl_laterFields rest,
      fieldReadings, List.reverse_cons, List.append_assoc, List.singleton_append]

end

/-! ### From text to tokens -/

/-- **A text spells some tokens** before other characters: these are what the scanner finds in
it, if those follow. -/
def Spells (k : List Char) (text : String) (ts : List Token) : Prop :=
  ∀ found, (Scanner.mk found .between).tokens (text.toList ++ k) =
    (Scanner.mk (ts.reverse ++ found) .between).tokens k

/-- Texts spell what they do one after the other. -/
theorem Spells.append {k : List Char} {a b : String} {ts us : List Token}
    (ha : Spells (b.toList ++ k) a ts) (hb : Spells k b us) : Spells k (a ++ b) (ts ++ us) := by
  intro found
  rw [String.toList_append, List.append_assoc, ha, hb, List.reverse_append, List.append_assoc]

section Punctuation

variable (k : List Char)

theorem spells_openArray : Spells k "[" [.openArray] := fun _ => rfl

theorem spells_closeArray : Spells k "]" [.closeArray] := fun _ => rfl

theorem spells_openObject : Spells k "\x7b" [.openObject] := fun _ => rfl

theorem spells_closeObject : Spells k "\x7d" [.closeObject] := fun _ => rfl

theorem spells_comma : Spells k "," [.comma] := fun _ => rfl

theorem spells_colon : Spells k ":" [.colon] := fun _ => rfl

/-- A colon may be followed by a blank. -/
theorem spells_colonBlank : Spells k ": " [.colon] := fun _ => rfl

theorem spells_lineFeed : Spells k "\n" [] := fun _ => rfl

/-- A new line and its indentation spell nothing. -/
theorem spells_newline (level : Nat) : Spells k (newline level) [] := by
  refine (spells_lineFeed _).append fun found => ?_
  rw [String.toList_ofList]
  generalize 2 * level = n
  induction n with
  | zero => rfl
  | succ n ih =>
    have hblank : ∀ k, (Scanner.mk found .between).tokens (' ' :: k) =
        (Scanner.mk found .between).tokens k := fun _ => rfl
    rw [List.replicate_succ, List.cons_append, hblank, ih]

/-- A string spells itself. -/
theorem spells_quotedString (s : String) : Spells k (quotedString s) [.text (some s)] :=
  fun found => tokens_quotedString found s k

end Punctuation

/-- A number ends with a text that begins with one of these characters. -/
theorem endsNumber_append (text : String) {c : Char} {rest : List Char}
    (htext : text.toList = c :: rest) (hc : c ∈ [',', ']', '\x7d', '\n']) (k : List Char) :
    EndsNumber (text.toList ++ k) := by
  intro d hd
  rw [htext] at hd
  obtain rfl := Option.some.inj hd
  exact hc

/-- The tokens of the items of an array. -/
def itemLexemes : List Json → List Token
  | [] => []
  | item :: rest => item.lexemes ++ laterItems rest

/-- The tokens of the fields of an object. -/
def fieldLexemes : List (String × Json) → List Token
  | [] => []
  | (key, value) :: rest => .text (some key) :: .colon :: (value.lexemes ++ laterFields rest)

theorem lexemes_arr (items : List Json) :
    (Json.arr items).lexemes = .openArray :: (itemLexemes items ++ [.closeArray]) := by
  cases items <;> rfl

theorem lexemes_obj (fields : List (String × Json)) :
    (Json.obj fields).lexemes = .openObject :: (fieldLexemes fields ++ [.closeObject]) := by
  cases fields <;> rfl

mutual

/-- **The compact text of a value spells the value.** -/
theorem spells_compact (v : Json) (h : v.Plain) {k : List Char} (hk : EndsNumber k) :
    Spells k v.compact v.lexemes := by
  match v, h with
  | .null, _ => exact fun _ => rfl
  | .bool true, _ => exact fun _ => rfl
  | .bool false, _ => exact fun _ => rfl
  | .int n, ⟨hlow, hhigh⟩ => exact fun found => tokens_int found hlow hhigh hk
  | .str s, _ => exact spells_quotedString k s
  | .arr items, h =>
    have hitems := spells_compactItems items h (endsNumber_append "]" rfl (by decide) k)
    rw [compact, lexemes_arr]
    exact ((spells_openArray _).append hitems).append (spells_closeArray k)
  | .obj fields, h =>
    have hfields := spells_compactFields fields h (endsNumber_append "\x7d" rfl (by decide) k)
    rw [compact, lexemes_obj]
    exact ((spells_openObject _).append hfields).append (spells_closeObject k)

/-- The compact text of items spells the items. -/
theorem spells_compactItems (items : List Json) (h : PlainItems items) {k : List Char}
    (hk : EndsNumber k) : Spells k (compactItems items) (itemLexemes items) := by
  match items, h with
  | [], _ => exact fun _ => rfl
  | [item], ⟨hitem, _⟩ =>
    rw [compactItems, itemLexemes, laterItems, List.append_nil]
    exact spells_compact item hitem hk
  | item :: next :: rest, ⟨hitem, hrest⟩ =>
    have hcomma := endsNumber_append "," rfl (by decide) ((compactItems (next :: rest)).toList ++ k)
    have hfirst := spells_compact item hitem hcomma
    have hlater := spells_compactItems (next :: rest) hrest hk
    have hall := (hfirst.append (spells_comma _)).append hlater
    rwa [List.append_assoc] at hall

/-- The compact text of fields spells the fields. -/
theorem spells_compactFields (fields : List (String × Json)) (h : PlainFields fields)
    {k : List Char} (hk : EndsNumber k) :
    Spells k (compactFields fields) (fieldLexemes fields) := by
  match fields, h with
  | [], _ => exact fun _ => rfl
  | [(key, value)], ⟨hvalue, _⟩ =>
    have hfirst := spells_compact value hvalue hk
    rw [compactFields, fieldLexemes, laterFields, List.append_nil]
    exact ((spells_quotedString _ key).append (spells_colon _)).append hfirst
  | (key, value) :: next :: rest, ⟨hvalue, hrest⟩ =>
    have hcomma :=
      endsNumber_append "," rfl (by decide) ((compactFields (next :: rest)).toList ++ k)
    have hfirst := spells_compact value hvalue hcomma
    have hlater := spells_compactFields (next :: rest) hrest hk
    have hall := ((((spells_quotedString _ key).append (spells_colon _)).append hfirst).append
      (spells_comma _)).append hlater
    rwa [List.append_assoc] at hall

end

/-- A number ends with the line. -/
theorem endsNumber_newline (level : Nat) (k : List Char) :
    EndsNumber ((newline level).toList ++ k) := by
  rw [newline, String.toList_append, List.append_assoc]
  exact endsNumber_append "\n" rfl (by decide) _

/-- A number ends with what is printed after an item. -/
theorem endsNumber_prettyItems (level outer : Nat) (rest : List Json) (k : List Char) :
    EndsNumber ((prettyItems level rest).toList ++ ((newline outer).toList ++ k)) := by
  cases rest with
  | nil => exact endsNumber_newline outer k
  | cons item rest =>
    simp only [prettyItems, String.toList_append, List.append_assoc]
    exact endsNumber_append "," rfl (by decide) _

/-- A number ends with what is printed after a field. -/
theorem endsNumber_prettyFields (level outer : Nat) (rest : List (String × Json))
    (k : List Char) :
    EndsNumber ((prettyFields level rest).toList ++ ((newline outer).toList ++ k)) := by
  cases rest with
  | nil => exact endsNumber_newline outer k
  | cons field rest =>
    simp only [prettyFields, String.toList_append, List.append_assoc]
    exact endsNumber_append "," rfl (by decide) _

mutual

/-- **The indented text of a value spells the value.** -/
theorem spells_prettyAt (v : Json) (h : v.Plain) (level : Nat) {k : List Char}
    (hk : EndsNumber k) : Spells k (v.prettyAt level) v.lexemes := by
  match v, h with
  | .null, _ => rw [prettyAt]; exact fun _ => rfl
  | .bool true, _ => rw [prettyAt]; exact fun _ => rfl
  | .bool false, _ => rw [prettyAt]; exact fun _ => rfl
  | .int n, ⟨hlow, hhigh⟩ => rw [prettyAt]; exact fun found => tokens_int found hlow hhigh hk
  | .str s, _ => rw [prettyAt]; exact spells_quotedString k s
  | .arr [], _ => rw [prettyAt]; exact fun _ => rfl
  | .obj [], _ => rw [prettyAt]; exact fun _ => rfl
  | .arr (item :: rest), ⟨hitem, hrest⟩ =>
    have hfirst := spells_prettyAt item hitem (level + 1)
      (endsNumber_prettyItems (level + 1) level rest ("]".toList ++ k))
    have hlater := spells_prettyItems rest hrest (level + 1) level ("]".toList ++ k)
    have hall := (((((spells_openArray _).append (spells_newline _ (level + 1))).append
      hfirst).append hlater).append (spells_newline _ level)).append (spells_closeArray k)
    rw [prettyAt, lexemes]
    rwa [List.append_nil] at hall
  | .obj ((key, value) :: rest), ⟨hvalue, hrest⟩ =>
    have hfirst := spells_prettyAt value hvalue (level + 1)
      (endsNumber_prettyFields (level + 1) level rest ("\x7d".toList ++ k))
    have hlater := spells_prettyFields rest hrest (level + 1) level ("\x7d".toList ++ k)
    have hall := (((((((spells_openObject _).append (spells_newline _ (level + 1))).append
      (spells_quotedString _ key)).append (spells_colonBlank _)).append hfirst).append
      hlater).append (spells_newline _ level)).append (spells_closeObject k)
    rw [prettyAt, lexemes]
    rwa [List.append_nil] at hall

/-- The indented text of further items spells the items. -/
theorem spells_prettyItems (rest : List Json) (h : PlainItems rest) (level outer : Nat)
    (k : List Char) :
    Spells ((newline outer).toList ++ k) (prettyItems level rest) (laterItems rest) := by
  match rest, h with
  | [], _ => rw [prettyItems]; exact fun _ => rfl
  | item :: rest, ⟨hitem, hrest⟩ =>
    have hfirst := spells_prettyAt item hitem level (endsNumber_prettyItems level outer rest k)
    have hlater := spells_prettyItems rest hrest level outer k
    rw [prettyItems, laterItems]
    exact (((spells_comma _).append (spells_newline _ level)).append hfirst).append hlater

/-- The indented text of further fields spells the fields. -/
theorem spells_prettyFields (rest : List (String × Json)) (h : PlainFields rest)
    (level outer : Nat) (k : List Char) :
    Spells ((newline outer).toList ++ k) (prettyFields level rest) (laterFields rest) := by
  match rest, h with
  | [], _ => rw [prettyFields]; exact fun _ => rfl
  | (key, value) :: rest, ⟨hvalue, hrest⟩ =>
    have hfirst := spells_prettyAt value hvalue level
      (endsNumber_prettyFields level outer rest k)
    have hlater := spells_prettyFields rest hrest level outer k
    rw [prettyFields, laterFields]
    exact (((((spells_comma _).append (spells_newline _ level)).append
      (spells_quotedString _ key)).append (spells_colonBlank _)).append hfirst).append hlater

end

/-! ### Whole texts -/

/-- A text that spells a value, and nothing else, is read as the value. -/
theorem ofText_of_spells {text : String} {v : Json} (h : Spells [] text v.lexemes) :
    Document.ofText text = document v := by
  have htokens : tokens text.toUTF8.toList = v.lexemes := by
    have hfound := h []
    rw [List.append_nil, List.append_nil] at hfound
    calc tokens text.toUTF8.toList = (Scanner.mk [] .between).tokens text.toList := by
          rw [tokens, toList_toUTF8, Scanner.tokens]
      _ = (Scanner.mk v.lexemes.reverse .between).tokens [] := hfound
      _ = v.lexemes := List.reverse_reverse _
  rw [Document.ofText, Document.ofBytes, htokens, foldl_lexemes]
  rfl

/-- **A value that is printed without blanks is read as it was.** -/
theorem ofText_compact {v : Json} (h : v.Plain) : Document.ofText v.compact = document v :=
  ofText_of_spells (spells_compact v h (by simp [EndsNumber]))

/-- **A value that is printed with one item or field a line is read as it was.** -/
theorem ofText_pretty {v : Json} (h : v.Plain) : Document.ofText v.pretty = document v :=
  ofText_of_spells (spells_prettyAt v h 0 (by simp [EndsNumber]))

end Json

end Dialogue
