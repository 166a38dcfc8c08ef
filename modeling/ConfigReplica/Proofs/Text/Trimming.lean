import ConfigReplica.Text.Blank
import Mathlib.Data.List.TakeWhile

/-!
# What trimming leaves

Trimming takes the blanks off both ends of a text and nothing else. That is said without the order
in which it goes about it (`Text.Trimmed`): the text is the rest with blanks around it, and the rest
neither begins nor ends with one. Every text has such a rest, namely what trimming leaves
(`Text.trimmed_trim`), and no other (`Text.Trimmed.trim_eq`), so that to know what is left of a text
it is enough to take it apart by hand.
-/

namespace ConfigReplica.Text

variable {cs middle : List Char}

/-- **A text without the blanks around it.** -/
structure Trimmed (cs middle : List Char) : Prop where
  parts : ∃ front back, cs = front ++ (middle ++ back) ∧
    (∀ c ∈ front, isBlank c = true) ∧ ∀ c ∈ back, isBlank c = true
  first : ∀ c ∈ middle.head?, isBlank c = false
  last : ∀ c ∈ middle.getLast?, isBlank c = false

/-- The first character that is not passed over is no blank. -/
theorem isBlank_of_mem_head? {c : Char} (begins : c ∈ (cs.dropWhile isBlank).head?) :
    isBlank c = false := by
  have head := List.head?_dropWhile_not isBlank cs
  rw [Option.mem_def.mp begins] at head
  exact head

/-- What is trimmed at the end is blank. -/
theorem exists_trimRight (cs : List Char) :
    ∃ back, cs = trimRight cs ++ back ∧ ∀ c ∈ back, isBlank c = true := by
  refine ⟨(cs.reverse.takeWhile isBlank).reverse, ?_, ?_⟩
  · calc cs = cs.reverse.reverse := cs.reverse_reverse.symm
      _ = (cs.reverse.takeWhile isBlank ++ cs.reverse.dropWhile isBlank).reverse := by
        rw [List.takeWhile_append_dropWhile]
      _ = trimRight cs ++ (cs.reverse.takeWhile isBlank).reverse := List.reverse_append
  · intro c mem
    exact List.mem_takeWhile_imp (List.mem_reverse.mp mem)

/-- **What trimming leaves** is the text without the blanks around it. -/
theorem trimmed_trim (cs : List Char) : Trimmed cs (trim cs) := by
  let rest := cs.dropWhile isBlank
  obtain ⟨back, parts, blank⟩ := exists_trimRight rest
  refine ⟨⟨cs.takeWhile isBlank, back, ?_, ?_, blank⟩, ?_, ?_⟩
  · calc cs = cs.takeWhile isBlank ++ rest := List.takeWhile_append_dropWhile.symm
      _ = cs.takeWhile isBlank ++ (trim cs ++ back) := congrArg _ parts
  · intro c mem
    exact List.mem_takeWhile_imp mem
  · intro c begins
    -- the end is trimmed last, and what is left begins as before
    have begins : (trimRight rest).head? = some c := begins
    have before : rest.head? = some c := by
      rw [parts, List.head?_append, begins]
      rfl
    exact isBlank_of_mem_head? before
  · intro c ends
    have turned : (trim cs).getLast? = (rest.reverse.dropWhile isBlank).head? :=
      List.getLast?_reverse
    rw [turned] at ends
    exact isBlank_of_mem_head? ends

/-- Blanks in front of a character that is none are passed over, and no more. -/
theorem dropWhile_append_of_blank {front rest : List Char}
    (blank : ∀ c ∈ front, isBlank c = true) (stops : ∀ c ∈ rest.head?, isBlank c = false) :
    (front ++ rest).dropWhile isBlank = rest := by
  rw [List.dropWhile_append_of_pos blank]
  cases rest with
  | nil => rfl
  | cons c rest => exact List.dropWhile_cons_of_neg (by simp [stops c rfl])

/-- Nothing else is left of a text than what is between the blanks. -/
theorem Trimmed.trim_eq (trimmed : Trimmed cs middle) : trim cs = middle := by
  obtain ⟨front, back, rfl, blankFront, blankBack⟩ := trimmed.parts
  have cutBack : trimRight (middle ++ back) = middle := by
    have stops : ∀ c ∈ middle.reverse.head?, isBlank c = false := by
      rw [List.head?_reverse]
      exact trimmed.last
    unfold trimRight
    rw [List.reverse_append, dropWhile_append_of_blank (fun c mem => ?_) stops,
      List.reverse_reverse]
    exact blankBack c (List.mem_reverse.mp mem)
  unfold trim
  cases middle with
  | nil =>
    -- all of the text is blank
    have blank : ∀ c ∈ front ++ ([] ++ back), isBlank c = true :=
      List.forall_mem_append.mpr ⟨blankFront, blankBack⟩
    rw [List.dropWhile_eq_nil_iff.mpr blank]
    rfl
  | cons c middle =>
    have cutFront : (front ++ (c :: middle ++ back)).dropWhile isBlank = c :: middle ++ back :=
      dropWhile_append_of_blank blankFront trimmed.first
    rw [cutFront, cutBack]

/-- Nothing is trimmed where there are no blanks. -/
theorem trim_of_plain (plain : ∀ c ∈ cs, isBlank c = false) : trim cs = cs := by
  apply Trimmed.trim_eq
  refine ⟨⟨[], [], by simp, nofun, nofun⟩, fun c begins => ?_, fun c ends => ?_⟩
  · exact plain c (List.mem_of_mem_head? begins)
  · exact plain c (List.mem_of_mem_getLast? ends)

/-- Trimming takes the blanks in front, up to a character that is none. -/
theorem trim_append {c last : Char} (stops : isBlank c = false) (ends : isBlank last = false)
    (front middle : List Char) :
    trim (front ++ c :: (middle ++ [last])) =
      front.dropWhile isBlank ++ c :: (middle ++ [last]) := by
  apply Trimmed.trim_eq
  refine ⟨⟨front.takeWhile isBlank, [], ?_, fun _ => List.mem_takeWhile_imp, nofun⟩, ?_, ?_⟩
  · rw [List.append_nil, ← List.append_assoc, List.takeWhile_append_dropWhile]
  · -- the first character that is left is `c`, or one that stopped the skipping
    intro first begins
    cases skipped : front.dropWhile isBlank with
    | nil =>
      rw [skipped] at begins
      obtain rfl := Option.some.inj begins
      exact stops
    | cons b rest =>
      have left : first ∈ (front.dropWhile isBlank).head? := by
        rw [skipped] at begins ⊢
        exact begins
      exact isBlank_of_mem_head? left
  · -- the last one stays, and it is no blank
    intro final closes
    have whole : front.dropWhile isBlank ++ c :: (middle ++ [last]) =
        (front.dropWhile isBlank ++ c :: middle) ++ [last] := by simp
    rw [whole, List.getLast?_concat] at closes
    obtain rfl := Option.some.inj closes
    exact ends

/-- What is left after trimming begins with no blank. -/
theorem isBlank_of_trim {rest : List Char} {first : Char} (left : trim cs = first :: rest) :
    isBlank first = false :=
  (trimmed_trim cs).first first (by rw [left]; rfl)

end ConfigReplica.Text
