/-!
# Blank characters and words

The characters with the Unicode property `White_Space`, and the words that stand between them.
Line formats of this library separate their fields by runs of such characters.
-/

set_option autoImplicit false

namespace SatBridge.Text

/-- The code points with the property `White_Space`, as closed ranges in ascending order. -/
def blankRanges : List (Nat × Nat) :=
  [(0x0009, 0x000D), (0x0020, 0x0020), (0x0085, 0x0085), (0x00A0, 0x00A0), (0x1680, 0x1680),
   (0x2000, 0x200A), (0x2028, 0x2029), (0x202F, 0x202F), (0x205F, 0x205F), (0x3000, 0x3000)]

/-- A character is blank if it has the property `White_Space`. -/
def isBlank (c : Char) : Bool :=
  blankRanges.any fun (low, high) => low ≤ c.toNat && c.toNat ≤ high

/-- Drops the blanks before the first other character. -/
def trimLeft (cs : List Char) : List Char :=
  cs.dropWhile isBlank

/-- Drops the blanks at both ends. -/
def trim (cs : List Char) : List Char :=
  (trimLeft (trimLeft cs).reverse).reverse

/-- A finished word, if it has any character, goes in front of the words after it. -/
def consWord (word : List Char) (words : List (List Char)) : List (List Char) :=
  if word.isEmpty then words else word :: words

/-- The word that a text starts with, empty when it starts with a blank, and the words after it. -/
def headAndWords : List Char → List Char × List (List Char)
  | [] => ([], [])
  | c :: rest =>
    let (head, words) := headAndWords rest
    if isBlank c then ([], consWord head words) else (c :: head, words)

/-- The maximal runs of characters that are not blank, from left to right. -/
def words (cs : List Char) : List (List Char) :=
  let (head, rest) := headAndWords cs
  consWord head rest

theorem consWord_append (word : List Char) (words more : List (List Char)) :
    consWord word (words ++ more) = consWord word words ++ more := by
  unfold consWord
  split <;> rfl

/-- A blank ends the words before it. -/
theorem headAndWords_append_blank {c : Char} (blank : isBlank c = true) (before after : List Char) :
    headAndWords (before ++ c :: after) =
      ((headAndWords before).1, (headAndWords before).2 ++ words after) := by
  induction before with
  | nil => simp [headAndWords, blank, words]
  | cons d rest ih =>
      simp only [List.cons_append, headAndWords, ih]
      split
      · rw [consWord_append]
      · rfl

theorem words_append_blank {c : Char} (blank : isBlank c = true) (before after : List Char) :
    words (before ++ c :: after) = words before ++ words after := by
  rw [words, headAndWords_append_blank blank]
  exact consWord_append _ _ _

/-- A text without blanks is its own head. -/
theorem headAndWords_of_not_blank {cs : List Char} (unblank : ∀ c ∈ cs, isBlank c = false) :
    headAndWords cs = (cs, []) := by
  induction cs with
  | nil => rfl
  | cons c rest ih =>
      have headUnblank : isBlank c = false := unblank c List.mem_cons_self
      have restUnblank := ih fun d member => unblank d (List.mem_cons_of_mem _ member)
      simp [headAndWords, restUnblank, headUnblank]

/-- A text without blanks is one word, unless it is empty. -/
theorem words_of_not_blank {cs : List Char} (filled : cs ≠ [])
    (unblank : ∀ c ∈ cs, isBlank c = false) : words cs = [cs] := by
  simp [words, headAndWords_of_not_blank unblank, consWord, filled]

end SatBridge.Text
