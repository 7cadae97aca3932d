import Dialogue.Console.Play
import Dialogue.Proofs.Number.Numeral
import Dialogue.Proofs.Session.Options
import Mathlib.Data.List.DropRight

/-!
# What is typed at the console

The console takes what is typed line by line, and a line for an answer. Both are told here by
what they come to, and not by how they are found.

A text is put together from lines that are ended by a line feed, and from what is left over behind
them (`Dialogue.Console.InLines`). There is one way to take it apart, and the console does so
(`Dialogue.Console.rawLines_eq_iff`); what is left over makes a line of its own if there is any of
it. Of a line everything counts but the carriage returns and line feeds at its end
(`Dialogue.Console.stripLine_eq_iff`).

What a line stands for depends on the question (`Dialogue.Question.Takes`). A number is looked at
first, so an option whose value or id is the number of another one is not picked by it.
-/

namespace Dialogue

/-! ### Answers -/

/-- **The answer for which an input stands**, if the question takes it. A question without
options takes any text. Of a question with options an input picks one by its number, counted
from 1, or else by its value or its id. -/
def Question.taken? (q : Question) (input : String) : Option String :=
  if q.options.isEmpty then some input
  else
    let numbered := (Number.count? (Text.trim input).toList).bind fun n =>
      if 1 ≤ n then q.options[n - 1]? else none
    (numbered.or (q.findOption? (Text.trim input))).map (·.value)

namespace Console

variable {options : List QuestionOption} {o : QuestionOption} {input : String}

/-- An input picks the option whose number it is. -/
theorem numbered?_eq (options : List QuestionOption) (input : String) :
    numbered? options input = (Number.count? (Text.trim input).toList).bind fun n =>
      if 1 ≤ n then options[n - 1]? else none := by
  rw [numbered?, Text.toList_trim]
  rcases Number.count? (Text.trimmed input.toList) with _ | _ | n <;> simp

/-- **An option is picked by its number**, counted from 1. -/
theorem numbered?_eq_some_iff :
    numbered? options input = some o ↔
      ∃ n, Number.IsCount (Text.trim input).toList (n + 1) ∧ options[n]? = some o := by
  simp only [numbered?_eq, Option.bind_eq_some_iff, Number.count?_eq_some_iff,
    Option.ite_none_right_eq_some]
  constructor
  · rintro ⟨n, hcount, hn, ho⟩
    exact ⟨n - 1, by rwa [Nat.sub_add_cancel hn], ho⟩
  · rintro ⟨n, hcount, ho⟩
    exact ⟨n + 1, hcount, Nat.le_add_left 1 n, ho⟩

/-- An input picks nothing by its number if it is the number of no option. -/
theorem numbered?_eq_none_iff :
    numbered? options input = none ↔
      ∀ n, Number.IsCount (Text.trim input).toList (n + 1) → options.length ≤ n := by
  simp only [Option.eq_none_iff_forall_ne_some, ne_eq, numbered?_eq_some_iff, not_exists, not_and,
    ← List.getElem?_eq_none_iff]
  exact forall_comm.trans (forall_congr' fun n => imp_forall_iff.symm)

end Console

namespace Question

variable {q : Question} {input value : String}

/-- **What an input stands for.** Where there are no options it is the answer. Otherwise it picks
an option: by its number, or if it is the number of none, by its value or its id. -/
inductive Takes (q : Question) (input : String) : String → Prop
  | asTyped (free : q.options = []) : Takes q input input
  | byNumber {n : ℕ} {o : QuestionOption}
      (count : Number.IsCount (Text.trim input).toList (n + 1)) (offered : q.options[n]? = some o) :
      Takes q input o.value
  | byName {value : String}
      (noNumber : ∀ n, Number.IsCount (Text.trim input).toList (n + 1) → q.options.length ≤ n)
      (picks : q.Picks (Text.trim input) value) : Takes q input value

/-- Where options are offered, their numbers are tried first, and then their values and ids. -/
theorem taken?_of_offers (hoffers : q.options ≠ []) :
    q.taken? input =
      ((Console.numbered? q.options input).map (·.value)).or (q.pick? (Text.trim input)) := by
  have hsome : ¬ q.options.isEmpty = true := by simpa using hoffers
  rw [taken?, if_neg hsome, ← Console.numbered?_eq, pick?, if_neg hsome]
  exact Option.map_or

/-- **What an input stands for is taken**, and nothing else is. -/
theorem taken?_eq_some_iff : q.taken? input = some value ↔ q.Takes input value := by
  by_cases hoffers : q.options = []
  · rw [taken?, hoffers]
    constructor
    · intro h
      obtain rfl : input = value := Option.some.inj h
      exact Takes.asTyped hoffers
    · rintro (_ | ⟨-, offered⟩ | ⟨-, picks⟩)
      · rfl
      · simp [hoffers] at offered
      · obtain ⟨o, ho, -⟩ := picks.exists_offered
        simp [hoffers] at ho
  · rw [taken?_of_offers hoffers, Option.or_eq_some_iff, Option.map_eq_some_iff,
      Option.map_eq_none_iff, Console.numbered?_eq_none_iff, pick?_eq_some_iff hoffers]
    constructor
    · rintro (⟨o, hnumbered, rfl⟩ | ⟨noNumber, picks⟩)
      · obtain ⟨n, count, offered⟩ := Console.numbered?_eq_some_iff.mp hnumbered
        exact Takes.byNumber count offered
      · exact Takes.byName noNumber picks
    · rintro (free | ⟨count, offered⟩ | ⟨noNumber, picks⟩)
      · exact absurd free hoffers
      · exact Or.inl ⟨_, Console.numbered?_eq_some_iff.mpr ⟨_, count, offered⟩, rfl⟩
      · exact Or.inr ⟨noNumber, picks⟩

end Question

/-! ### Lines -/

namespace Console

variable {text line left : List Char} {ended lines : List (List Char)}

/-- **A text in lines**: lines that are ended by a line feed, and what is left over behind them.
No other line feeds are there. -/
structure InLines (text : List Char) (ended : List (List Char)) (left : List Char) : Prop where
  unbroken : ∀ line ∈ ended, '\n' ∉ line
  unended : '\n' ∉ left
  joined : text = ended.flatMap (· ++ ['\n']) ++ left

/-- Every text is in lines. -/
theorem exists_inLines (text : List Char) : ∃ ended left, InLines text ended left := by
  induction text with
  | nil => exact ⟨[], [], by simp, by simp, rfl⟩
  | cons c rest ih =>
    obtain ⟨ended, left, unbroken, unended, rfl⟩ := ih
    by_cases hc : c = '\n'
    · subst hc
      exact ⟨[] :: ended, left, List.forall_mem_cons.mpr ⟨List.not_mem_nil, unbroken⟩, unended, rfl⟩
    · -- the character goes to the line that comes first, or to what is left over if there is none
      rcases ended with _ | ⟨line, ended⟩
      · exact ⟨[], c :: left, unbroken, by simp [Ne.symm hc, unended], rfl⟩
      · obtain ⟨hline, hended⟩ := List.forall_mem_cons.mp unbroken
        have hfirst : '\n' ∉ c :: line := by simp [Ne.symm hc, hline]
        exact ⟨(c :: line) :: ended, left, List.forall_mem_cons.mpr ⟨hfirst, hended⟩, unended, rfl⟩

/-- A line is cut off at its line feed. -/
theorem rawLines_line (h : '\n' ∉ line) (rest : List Char) :
    rawLines (line ++ '\n' :: rest) = line :: rawLines rest := by
  induction line with
  | nil => rfl
  | cons c line ih =>
    obtain ⟨hc, hline⟩ := List.ne_and_not_mem_of_not_mem_cons h
    rw [List.cons_append, rawLines, if_neg (Ne.symm hc), ih hline]

/-- What has no line feed is a line, unless it is empty. -/
theorem rawLines_left (h : '\n' ∉ left) : rawLines left = if left = [] then [] else [left] := by
  induction left with
  | nil => rfl
  | cons c left ih =>
    obtain ⟨hc, hleft⟩ := List.ne_and_not_mem_of_not_mem_cons h
    rw [rawLines, if_neg (Ne.symm hc), ih hleft]
    rcases left with _ | _ <;> rfl

/-- **A text is taken apart into its lines.** -/
theorem InLines.rawLines_eq (h : InLines text ended left) :
    rawLines text = ended ++ if left = [] then [] else [left] := by
  obtain ⟨unbroken, unended, rfl⟩ := h
  induction ended with
  | nil => exact rawLines_left unended
  | cons line ended ih =>
    obtain ⟨hline, hended⟩ := List.forall_mem_cons.mp unbroken
    rw [List.flatMap_cons, List.append_assoc, List.append_assoc, List.singleton_append,
      rawLines_line hline, ih hended, List.cons_append]

/-- **The lines of a text** are those that are ended there, and what is left over behind them. -/
theorem rawLines_eq_iff :
    rawLines text = lines ↔ ∃ ended left,
      InLines text ended left ∧ lines = ended ++ if left = [] then [] else [left] := by
  constructor
  · rintro rfl
    obtain ⟨ended, left, h⟩ := exists_inLines text
    exact ⟨ended, left, h, h.rawLines_eq⟩
  · rintro ⟨ended, left, h, rfl⟩
    exact h.rawLines_eq

/-- **The end of a line is stripped**: all carriage returns and line feeds there, and nothing
else. -/
theorem stripLine_eq_iff :
    stripLine line = text ↔
      (∃ ends, line = text ++ ends ∧ ∀ c ∈ ends, c = '\r' ∨ c = '\n') ∧
        ∀ c ∈ text.getLast?, c ≠ '\r' ∧ c ≠ '\n' := by
  have hstrip : stripLine line = line.rdropWhile fun c => c = '\r' || c = '\n' := rfl
  rw [hstrip]
  constructor
  · rintro rfl
    refine ⟨⟨_, List.rdropWhile_append_rtakeWhile.symm, fun c hc => ?_⟩, fun c hc => ?_⟩
    · simpa using List.mem_rtakeWhile_imp hc
    · obtain ⟨hne, rfl⟩ := List.mem_getLast?_eq_getLast hc
      simpa using List.rdropWhile_last_not _ _ hne
  · rintro ⟨⟨ends, rfl, hends⟩, hlast⟩
    have hdrop : (text ++ ends).rdropWhile (fun c => c = '\r' || c = '\n') =
        text.rdropWhile fun c => c = '\r' || c = '\n' := by
      rw [List.rdropWhile, List.reverse_append, List.dropWhile_append_of_pos, List.rdropWhile]
      intro c hc
      simpa using hends c (List.mem_reverse.mp hc)
    rw [hdrop, List.rdropWhile_eq_self_iff]
    intro hne
    simpa using hlast _ (List.getLast?_eq_some_getLast hne)

end Console

end Dialogue
