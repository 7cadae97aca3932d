import Dialogue.Json.Token
import Dialogue.Json.Writer
import Mathlib.Tactic.IntervalCases

/-!
# Scanning what was written

The scanner finds in a written scalar the scalar that was written: a string
(`Dialogue.Json.tokens_quotedString`) whatever its characters, and a whole number of 64 bits
(`Dialogue.Json.tokens_int`). What is said is always what the scanner finds in the scalar *and
in all that follows it* (`Dialogue.Json.Scanner.tokens`). For a string this is no more than a
convenience, but a number has no end of its own: it is found once something follows that is no
part of it, or the text ends (`Dialogue.Json.EndsNumber`).

A string is written character by character and scanned byte by byte. The bytes of a character
beyond ASCII are none that the scanner looks out for, so only ASCII needs to be looked at.
-/

namespace Dialogue

namespace Json

/-! ### Characters and their bytes -/

/-- A byte of a character is the character itself, if that is ASCII, or else beyond ASCII. -/
theorem toNat_of_mem_utf8EncodeChar {c : Char} {b : UInt8} (h : b ∈ String.utf8EncodeChar c) :
    b.toNat = c.toNat ∨ 0x80 ≤ b.toNat := by
  have hval : c.val.toNat = c.toNat := rfl
  simp only [String.utf8EncodeChar] at h
  split at h
  · obtain rfl := List.mem_singleton.mp h
    exact Or.inl (by rw [UInt8.toNat_ofNat']; omega)
  · refine Or.inr ?_
    split at h
    · simp only [List.mem_cons, List.not_mem_nil, or_false] at h
      rcases h with rfl | rfl <;> rw [UInt8.toNat_ofNat'] <;> omega
    · split at h <;> simp only [List.mem_cons, List.not_mem_nil, or_false] at h
      · rcases h with rfl | rfl | rfl <;> rw [UInt8.toNat_ofNat'] <;> omega
      · rcases h with rfl | rfl | rfl | rfl <;> rw [UInt8.toNat_ofNat'] <;> omega

/-- An ASCII character is one byte. -/
theorem utf8EncodeChar_of_lt {c : Char} (h : c.toNat < 0x80) :
    String.utf8EncodeChar c = [UInt8.ofNat c.toNat] := by
  have hval : c.val.toNat = c.toNat := rfl
  simp only [String.utf8EncodeChar]
  rw [if_pos (by omega), hval]

/-- An ASCII character is read off its byte. -/
theorem ofNat_toNat_ofNat {c : Char} (h : c.toNat < 0x80) :
    Char.ofNat (UInt8.ofNat c.toNat).toNat = c := by
  have hsize : c.toNat < UInt8.size := Nat.lt_trans h (by decide)
  rw [UInt8.toNat_ofNat_of_lt' hsize, Char.ofNat_toNat]

/-- The loop that lists the bytes of an array goes on from a place with the bytes from there. -/
theorem toList_loop (bytes : ByteArray) (i : Nat) (before : List UInt8) :
    ByteArray.toList.loop bytes i before = before.reverse ++ bytes.data.toList.drop i := by
  induction h : bytes.size - i generalizing i before with
  | zero =>
    have hend : ¬i < bytes.size := by omega
    have hlength : bytes.data.toList.length ≤ i := Nat.le_of_not_lt hend
    rw [ByteArray.toList.loop, if_neg hend, List.drop_eq_nil_of_le hlength, List.append_nil]
  | succ n ih =>
    have hlt : i < bytes.size := by omega
    have hlength : i < bytes.data.toList.length := hlt
    have hget : bytes.get! i = bytes.data.toList[i] := by
      simp [ByteArray.get!, getElem!_pos, hlt]
    rw [ByteArray.toList.loop, if_pos hlt, ih _ _ (by omega), List.drop_eq_getElem_cons hlength,
      List.reverse_cons, List.append_assoc, List.singleton_append, hget]

/-- The bytes of a text are those of its characters. -/
theorem toList_toUTF8 (text : String) :
    text.toUTF8.toList = text.toList.flatMap String.utf8EncodeChar := by
  have hbytes : text.toUTF8.data.toList = text.toList.flatMap String.utf8EncodeChar := by
    conv_lhs => rw [← String.ofList_toList (s := text)]
    rw [String.toUTF8_eq_toByteArray, String.toByteArray_ofList, List.utf8Encode,
      List.toList_data_toByteArray]
  rw [ByteArray.toList, toList_loop, hbytes]
  rfl

/-- The tokens of a text of which a scanner is to take these characters still. -/
def Scanner.tokens (s : Scanner) (cs : List Char) : List Token :=
  ((cs.flatMap String.utf8EncodeChar).foldl Scanner.step s).finish

variable (found : List Token)

/-- The next character is taken byte by byte. -/
theorem Scanner.tokens_cons (s : Scanner) (c : Char) (k : List Char) :
    s.tokens (c :: k) = ((String.utf8EncodeChar c).foldl Scanner.step s).tokens k := by
  rw [tokens, List.flatMap_cons, List.foldl_append, tokens]

/-! ### Strings -/

/-- Bytes that are no quote, no backslash and no control are taken as they are. -/
theorem foldl_step_plain {plain : List UInt8} (bytes : List UInt8)
    (h : ∀ b ∈ plain, b ≠ 0x22 ∧ b ≠ 0x5C ∧ ¬b < 0x20) :
    plain.foldl Scanner.step ⟨found, .string bytes true .none⟩ =
      ⟨found, .string (plain.reverse ++ bytes) true .none⟩ := by
  induction plain generalizing bytes with
  | nil => rfl
  | cons b rest ih =>
    obtain ⟨hquote, hbackslash, hcontrol⟩ := h b List.mem_cons_self
    have hstep : Scanner.step ⟨found, .string bytes true .none⟩ b =
        ⟨found, .string (b :: bytes) true .none⟩ := by
      simp only [Scanner.step, Scanner.stepString, Scanner.goOn, if_neg hquote,
        if_neg hbackslash, if_neg hcontrol]
    rw [List.foldl_cons, hstep, ih _ fun b hb => h b (List.mem_cons_of_mem _ hb),
      List.reverse_cons, List.append_assoc, List.singleton_append]

/-- A control is written as an escape, and read as the control. -/
theorem tokens_control {n : Nat} (h : n < 0x20) (bytes : List UInt8) (k : List Char) :
    (Scanner.mk found (.string bytes true .none)).tokens (escapedChar (Char.ofNat n) ++ k) =
      (Scanner.mk found (.string ((String.utf8EncodeChar (Char.ofNat n)).reverse ++ bytes) true
        .none)).tokens k := by
  interval_cases n <;> rfl

/-- **A character of a string is read as it was written.** -/
theorem tokens_escapedChar (c : Char) (bytes : List UInt8) (k : List Char) :
    (Scanner.mk found (.string bytes true .none)).tokens (escapedChar c ++ k) =
      (Scanner.mk found (.string ((String.utf8EncodeChar c).reverse ++ bytes) true
        .none)).tokens k := by
  by_cases hcontrol : c.toNat < 0x20
  · rw [← Char.ofNat_toNat c]
    exact tokens_control found hcontrol bytes k
  by_cases hquote : c = '"'
  · subst hquote; rfl
  by_cases hbackslash : c = '\\'
  · subst hbackslash; rfl
  -- what is left is written as it is, and its bytes mean nothing to the scanner
  have hwritten : escapedChar c = [c] := by
    unfold escapedChar
    split <;> simp_all
  have hother : ∀ b ∈ String.utf8EncodeChar c, ∀ d : Char, d.toNat < 0x80 → c ≠ d →
      b.toNat ≠ d.toNat := by
    intro b hb d hd hne heq
    obtain hsame | hbeyond := toNat_of_mem_utf8EncodeChar hb
    · exact hne (Char.toNat_inj.mp (hsame.symm.trans heq))
    · omega
  rw [hwritten, List.singleton_append, Scanner.tokens_cons, foldl_step_plain]
  intro b hb
  refine ⟨fun heq => hother b hb '"' (by decide) hquote (congrArg _ heq),
    fun heq => hother b hb '\\' (by decide) hbackslash (congrArg _ heq), fun hlt => ?_⟩
  have hb' : b.toNat < 0x20 := hlt
  obtain hsame | hbeyond := toNat_of_mem_utf8EncodeChar hb <;> omega

/-- The characters of a string are read as they were written. -/
theorem tokens_escapedChars (cs : List Char) (bytes : List UInt8) (k : List Char) :
    (Scanner.mk found (.string bytes true .none)).tokens (cs.flatMap escapedChar ++ k) =
      (Scanner.mk found (.string ((cs.flatMap String.utf8EncodeChar).reverse ++ bytes) true
        .none)).tokens k := by
  induction cs generalizing bytes with
  | nil => rfl
  | cons c rest ih =>
    rw [List.flatMap_cons, List.append_assoc, tokens_escapedChar, ih, List.flatMap_cons,
      List.reverse_append, List.append_assoc]

/-- The bytes of a string are read as the string. -/
theorem textOfReversed?_reverse (s : String) :
    textOfReversed? (s.toList.flatMap String.utf8EncodeChar).reverse = some s := by
  have hbytes : (⟨(s.toList.flatMap String.utf8EncodeChar).toArray⟩ : ByteArray) =
      s.toByteArray := by
    conv_rhs => rw [← String.ofList_toList (s := s), String.toByteArray_ofList]
    rw [List.utf8Encode, ← List.data_toByteArray]
  rw [textOfReversed?, List.reverse_reverse, hbytes, String.fromUTF8?, dif_pos s.isValidUTF8]
  rfl

/-- **A string is found as it was written.** -/
theorem tokens_quotedString (s : String) (k : List Char) :
    (Scanner.mk found .between).tokens ((quotedString s).toList ++ k) =
      (Scanner.mk (.text (some s) :: found) .between).tokens k := by
  have hopen : ∀ k, (Scanner.mk found .between).tokens ('"' :: k) =
      (Scanner.mk found (.string [] true .none)).tokens k := fun k => rfl
  have hclose : ∀ bytes, (Scanner.mk found (.string bytes true .none)).tokens ('"' :: k) =
      (Scanner.mk (.text (textOfReversed? bytes) :: found) .between).tokens k := fun bytes => rfl
  rw [quotedString, String.toList_ofList, List.cons_append, List.append_assoc,
    List.singleton_append, hopen, tokens_escapedChars, hclose, List.append_nil,
    textOfReversed?_reverse]

/-! ### Whole numbers -/

/-- What follows a number, if anything does: a comma, a closing bracket or a new line. -/
def EndsNumber (k : List Char) : Prop :=
  ∀ c ∈ k.head?, c ∈ [',', ']', '\x7d', '\n']

/-- A number is found once it is over. -/
theorem tokens_number {part : NumberPart} (hpart : part.complete = true) (l : Literal)
    {k : List Char} (hk : EndsNumber k) :
    (Scanner.mk found (.number part l)).tokens k =
      (Scanner.mk (.scalar l.value :: found) .between).tokens k := by
  cases k with
  | nil => simp [Scanner.tokens, Scanner.finish, hpart]
  | cons c k =>
    have hc : c ∈ [',', ']', '\x7d', '\n'] := hk c rfl
    simp only [List.mem_cons, List.not_mem_nil, or_false] at hc
    rcases hc with rfl | rfl | rfl | rfl <;> cases part <;> first | rfl | cases hpart

/-- A digit is ASCII. -/
theorem toNat_lt_of_isDigit {c : Char} (h : c.isDigit = true) : c.toNat < 0x80 := by
  obtain ⟨-, hc⟩ := by simpa only [Char.isDigit, Bool.and_eq_true, decide_eq_true_eq] using h
  have hle : c.toNat ≤ 57 := hc
  omega

/-- The digits that go on a number are read as they were written. -/
theorem tokens_digits {digits : List Char} (h : ∀ c ∈ digits, c.isDigit = true) (l : Literal)
    (k : List Char) :
    (Scanner.mk found (.number .whole l)).tokens (digits ++ k) =
      (Scanner.mk found (.number .whole
        { l with
          whole := digits.reverse ++ l.whole
          written := digits.reverse ++ l.written })).tokens k := by
  induction digits generalizing l with
  | nil => rfl
  | cons c rest ih =>
    have hc : c.isDigit = true := h c List.mem_cons_self
    have hascii := toNat_lt_of_isDigit hc
    have hstep : Scanner.step ⟨found, .number .whole l⟩ (UInt8.ofNat c.toNat) =
        ⟨found, .number .whole (l.add .whole c)⟩ := by
      simp only [Scanner.step, ofNat_toNat_ofNat hascii, NumberPart.next?, if_pos hc,
        Scanner.goOn]
    rw [List.cons_append, Scanner.tokens_cons, utf8EncodeChar_of_lt hascii, List.foldl_cons,
      List.foldl_nil, hstep, ih fun c hc => h c (List.mem_cons_of_mem _ hc)]
    simp only [Literal.add, List.reverse_cons, List.append_assoc, List.singleton_append]

/-- A numeral other than zero does not begin with a zero. -/
theorem exists_toDigits {n : Nat} (h : 0 < n) :
    ∃ d rest, 0 < d ∧ d < 10 ∧ Nat.toDigits 10 n = Nat.digitChar d :: rest := by
  induction n using Nat.strongRecOn with
  | _ n ih =>
    by_cases hdigit : n < 10
    · exact ⟨n, [], h, hdigit, Nat.toDigits_of_lt_base hdigit⟩
    · obtain ⟨d, rest, hd, hlt, hdigits⟩ := ih (n / 10) (by omega) (by omega)
      rw [Nat.toDigits_of_base_le (by decide) (Nat.le_of_not_lt hdigit), hdigits]
      exact ⟨d, rest ++ [(n % 10).digitChar], hd, hlt, rfl⟩

/-- **A numeral is read as it was written**, wherever the first digit of a number is due. -/
theorem tokens_toDigits {s : Scanner} {negative : Bool} {before : List Char}
    (hfirst : ∀ d < 10, ∀ k, s.tokens (Nat.digitChar d :: k) =
      (Scanner.mk found (.number (if d = 0 then .zero else .whole)
        ⟨negative, [Nat.digitChar d], [], false, [], Nat.digitChar d :: before⟩)).tokens k)
    (n : Nat) {k : List Char} (hk : EndsNumber k) :
    s.tokens (Nat.toDigits 10 n ++ k) =
      (Scanner.mk (.scalar (Literal.value ⟨negative, (Nat.toDigits 10 n).reverse, [], false, [],
        (Nat.toDigits 10 n).reverse ++ before⟩) :: found) .between).tokens k := by
  obtain rfl | hpos := Nat.eq_zero_or_pos n
  · exact (hfirst 0 (by decide) k).trans (tokens_number found rfl _ hk)
  · have hdigits : ∀ c ∈ Nat.toDigits 10 n, c.isDigit = true :=
      fun c hc => Nat.isDigit_of_mem_toDigits (by decide) (by decide) hc
    obtain ⟨d, rest, hd, hlt, hwritten⟩ := exists_toDigits hpos
    rw [hwritten] at hdigits ⊢
    rw [List.cons_append, hfirst d hlt, if_neg (Nat.ne_of_gt hd),
      tokens_digits found fun c hc => hdigits c (List.mem_cons_of_mem _ hc),
      tokens_number found rfl _ hk]
    simp only [List.reverse_cons, List.append_assoc, List.singleton_append]

/-- A numeral stands for the number that it was written for. -/
theorem valueOf_toDigits (n : Nat) : Number.valueOf (Nat.toDigits 10 n) = n := by
  have hvalue := Nat.ofDigitChars_ten_toDigits (n := n)
  rwa [Nat.ofDigitChars_eq_foldl] at hvalue

/-- What a numeral without a sign is read as. -/
theorem value_toDigits {n : Nat} (h : n < 2 ^ 64) (written : List Char) :
    Literal.value ⟨false, (Nat.toDigits 10 n).reverse, [], false, [], written⟩ = .int n := by
  have hfits : n ≤ significandLimit := Nat.le_pred_of_lt h
  simp [Literal.value, valueOf_toDigits, hfits]

/-- What a numeral with a minus sign is read as. -/
theorem value_neg_toDigits {n : Nat} (hpos : 0 < n) (h : n ≤ 2 ^ 63) (written : List Char) :
    Literal.value ⟨true, (Nat.toDigits 10 n).reverse, [], false, [], written⟩ = .int (-n) := by
  have hfits : n ≤ UInt64.size / 2 := h
  simp [Literal.value, valueOf_toDigits, hfits, Nat.ne_of_gt hpos]

/-- **A whole number of 64 bits, with or without a sign, is found as it was written.** -/
theorem tokens_int {n : Int} (hlow : -2 ^ 63 ≤ n) (hhigh : n < 2 ^ 64) {k : List Char}
    (hk : EndsNumber k) :
    (Scanner.mk found .between).tokens ((toString n).toList ++ k) =
      (Scanner.mk (.scalar (.int n) :: found) .between).tokens k := by
  rw [Int.toString_eq_repr]
  cases n with
  | ofNat n =>
    have hfirst : ∀ d < 10, ∀ k, (Scanner.mk found .between).tokens (Nat.digitChar d :: k) =
        (Scanner.mk found (.number (if d = 0 then .zero else .whole)
          ⟨false, [Nat.digitChar d], [], false, [], [Nat.digitChar d]⟩)).tokens k := by
      intro d hd k
      interval_cases d <;> rfl
    rw [Int.repr, Nat.toList_repr, tokens_toDigits found hfirst n hk,
      value_toDigits (by simpa using hhigh)]
    rfl
  | negSucc n =>
    -- the minus sign is taken first
    have hfirst : ∀ d < 10, ∀ k,
        (Scanner.mk found (.number .sign ⟨true, [], [], false, [], ['-']⟩)).tokens
            (Nat.digitChar d :: k) =
          (Scanner.mk found (.number (if d = 0 then .zero else .whole)
            ⟨true, [Nat.digitChar d], [], false, [], [Nat.digitChar d, '-']⟩)).tokens k := by
      intro d hd k
      interval_cases d <;> rfl
    have hsign : ∀ k, (Scanner.mk found .between).tokens ('-' :: k) =
        (Scanner.mk found (.number .sign ⟨true, [], [], false, [], ['-']⟩)).tokens k :=
      fun k => rfl
    have hbound : n + 1 ≤ 2 ^ 63 := by omega
    have hwritten : "-".toList ++ Nat.toDigits 10 (n + 1) ++ k =
        '-' :: (Nat.toDigits 10 (n + 1) ++ k) := rfl
    rw [Int.repr, String.toList_append, Nat.toList_repr, Nat.succ_eq_add_one, hwritten, hsign,
      tokens_toDigits found hfirst (n + 1) hk,
      value_neg_toDigits (Nat.succ_pos n) hbound]
    rfl

end Json

end Dialogue
