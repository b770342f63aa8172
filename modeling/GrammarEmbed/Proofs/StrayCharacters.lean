import GrammarEmbed.Text.Identifier

/-!
Which characters tell the two readings of "identifier" apart. Sets of characters are compared by
their ranges: the difference of two lists of ranges is computed, and what it holds is proved once.
-/

namespace GrammarEmbed.Text

section Ranges

/-- The ranges are not empty, stand in increasing order, and start at `bound` or behind it. -/
def increasing : Nat → List (Nat × Nat) → Bool
  | _, [] => true
  | bound, (first, last) :: rest =>
    bound ≤ first && first ≤ last && increasing (last + 1) rest

/-- The codes from `low` on that come before `first`, in front of other ranges. -/
def upTo (low first : Nat) (ranges : List (Nat × Nat)) : List (Nat × Nat) :=
  if low < first then (low, first - 1) :: ranges else ranges

/-- What is left of increasing ranges without the codes in others. -/
def difference : List (Nat × Nat) → List (Nat × Nat) → List (Nat × Nat)
  | [], _ => []
  | ranges, [] => ranges
  | (low, high) :: ranges, (first, last) :: others =>
    if high < first then (low, high) :: difference ranges ((first, last) :: others)
    else if last < low then difference ((low, high) :: ranges) others
    else if last < high then upTo low first (difference ((last + 1, high) :: ranges) others)
    else upTo low first (difference ranges ((first, last) :: others))
termination_by ranges others => ranges.length + others.length

variable {bound code : Nat} {ranges others : List (Nat × Nat)}

theorem increasing_cons {first last : Nat} :
    increasing bound ((first, last) :: ranges) = true ↔
      bound ≤ first ∧ first ≤ last ∧ increasing (last + 1) ranges = true := by
  simp [increasing, and_assoc]

theorem inRanges_cons (first last : Nat) :
    inRanges ((first, last) :: ranges) code = true ↔
      first ≤ code ∧ (code ≤ last ∨ inRanges ranges code = true) := by
  by_cases before : code < first
  · simp [inRanges, before, Nat.not_le.mpr before]
  · by_cases inside : code ≤ last
    · simp [inRanges, before, inside, Nat.not_lt.mp before]
    · simp [inRanges, before, inside, Nat.not_lt.mp before]

theorem inRanges_upTo {low first : Nat}
    (behind : inRanges ranges code = true → low ≤ code ∧ first ≤ code) :
    inRanges (upTo low first ranges) code = true ↔
      low ≤ code ∧ code < first ∨ inRanges ranges code = true := by
  by_cases before : low < first
  · simp only [upTo, before, if_true, inRanges_cons]
    grind
  · simp only [upTo, before, if_false]
    grind

theorem le_of_inRanges (sorted : increasing bound ranges = true)
    (inside : inRanges ranges code = true) : bound ≤ code := by
  cases ranges with
  | nil => cases inside
  | cons range rest =>
    obtain ⟨first, last⟩ := range
    have low := (increasing_cons.mp sorted).1
    have least := ((inRanges_cons first last).mp inside).1
    omega

/-- The difference holds what is in the ranges and in none of the others. -/
theorem inRanges_difference {bound' : Nat} (sorted : increasing bound ranges = true)
    (sortedOthers : increasing bound' others = true) (code : Nat) :
    inRanges (difference ranges others) code = true ↔
      inRanges ranges code = true ∧ ¬inRanges others code = true := by
  -- both lists are walked at once: a range is kept, passed, cut open at its front, or left
  fun_induction difference ranges others generalizing bound bound' with
  | case1 => simp [inRanges]
  | case2 => simp [inRanges]
  | case3 low high ranges first last others before ih =>
    obtain ⟨-, -, sortedRest⟩ := increasing_cons.mp sorted
    simp only [inRanges_cons, ih sortedRest sortedOthers]
    grind
  | case4 low high ranges first last others before behind ih =>
    obtain ⟨-, ordered, sortedRest⟩ := increasing_cons.mp sortedOthers
    simp only [inRanges_cons, ih sorted sortedRest]
    grind
  | case5 low high ranges first last others before behind longer ih =>
    obtain ⟨-, -, sortedRanges⟩ := increasing_cons.mp sorted
    obtain ⟨-, ordered, sortedRest⟩ := increasing_cons.mp sortedOthers
    have shorter : increasing (last + 1) ((last + 1, high) :: ranges) = true :=
      increasing_cons.mpr ⟨Nat.le_refl _, longer, sortedRanges⟩
    have later := @le_of_inRanges _ code _ sortedRanges
    have beyond := @le_of_inRanges _ code _ sortedRest
    rw [inRanges_upTo] <;> simp only [inRanges_cons, ih shorter sortedRest] <;> grind
  | case6 low high ranges first last others before behind longer ih =>
    obtain ⟨-, -, sortedRanges⟩ := increasing_cons.mp sorted
    have later := @le_of_inRanges _ code _ sortedRanges
    rw [inRanges_upTo] <;> simp only [inRanges_cons, ih sortedRanges sortedOthers] <;> grind

end Ranges

section Characters

/-- Letters in the widest sense that no identifier name holds: those in circles and squares, and a
mark of one script. -/
def strayLetterRanges : List (Nat × Nat) :=
  [(0x24b6, 0x24e9), (0x2e2f, 0x2e2f), (0x1f130, 0x1f149), (0x1f150, 0x1f169), (0x1f170, 0x1f189)]

/-- Number characters that no identifier name holds: superscripts, fractions, numbers in circles,
and the number signs of many scripts. -/
def strayNumberRanges : List (Nat × Nat) :=
  [(0xb2, 0xb3), (0xb9, 0xb9), (0xbc, 0xbe), (0x9f4, 0x9f9), (0xb72, 0xb77), (0xbf0, 0xbf2),
   (0xc78, 0xc7e), (0xd58, 0xd5e), (0xd70, 0xd78), (0xf2a, 0xf33), (0x1372, 0x137c),
   (0x17f0, 0x17f9), (0x2070, 0x2070), (0x2074, 0x2079), (0x2080, 0x2089), (0x2150, 0x215f),
   (0x2189, 0x2189), (0x2460, 0x249b), (0x24ea, 0x24ff), (0x2776, 0x2793), (0x2cfd, 0x2cfd),
   (0x3192, 0x3195), (0x3220, 0x3229), (0x3248, 0x324f), (0x3251, 0x325f), (0x3280, 0x3289),
   (0x32b1, 0x32bf), (0xa830, 0xa835), (0x10107, 0x10133), (0x10175, 0x10178), (0x1018a, 0x1018b),
   (0x102e1, 0x102fb), (0x10320, 0x10323), (0x10858, 0x1085f), (0x10879, 0x1087f),
   (0x108a7, 0x108af), (0x108fb, 0x108ff), (0x10916, 0x1091b), (0x109bc, 0x109bd),
   (0x109c0, 0x109cf), (0x109d2, 0x109ff), (0x10a40, 0x10a48), (0x10a7d, 0x10a7e),
   (0x10a9d, 0x10a9f), (0x10aeb, 0x10aef), (0x10b58, 0x10b5f), (0x10b78, 0x10b7f),
   (0x10ba9, 0x10baf), (0x10cfa, 0x10cff), (0x10e60, 0x10e7e), (0x10f1d, 0x10f26),
   (0x10f51, 0x10f54), (0x10fc5, 0x10fcb), (0x11052, 0x11065), (0x111e1, 0x111f4),
   (0x1173a, 0x1173b), (0x118ea, 0x118f2), (0x11c5a, 0x11c6c), (0x11fc0, 0x11fd4),
   (0x16b5b, 0x16b61), (0x16e80, 0x16e96), (0x1d2c0, 0x1d2d3), (0x1d2e0, 0x1d2f3),
   (0x1d360, 0x1d378), (0x1e8c7, 0x1e8cf), (0x1ec71, 0x1ecab), (0x1ecad, 0x1ecaf),
   (0x1ecb1, 0x1ecb4), (0x1ed01, 0x1ed2d), (0x1ed2f, 0x1ed3d), (0x1f100, 0x1f10c)]

/-- A letter or number in the widest sense that no identifier name holds. -/
def isStray (c : Char) : Bool :=
  inRanges strayLetterRanges c.toNat || inRanges strayNumberRanges c.toNat

theorem increasing_tables :
    increasing 0x80 alphabeticRanges = true ∧ increasing 0x80 numericRanges = true ∧
      increasing 0x80 idStartRanges = true ∧ increasing 0x80 idContinueRanges = true := by
  decide +kernel

/-- The tables compared; no joiner is a letter or a number. -/
theorem difference_tables :
    difference alphabeticRanges idContinueRanges = strayLetterRanges ∧
      difference numericRanges idContinueRanges = strayNumberRanges ∧
      difference idStartRanges idContinueRanges = [] ∧
      (['\u200c', '\u200d'].all fun joiner => !inRanges alphabeticRanges joiner.toNat &&
        !inRanges numericRanges joiner.toNat) = true := by
  decide +kernel

variable {c : Char}

theorem toNat_of_isAlphanum (ascii : c.isAlphanum = true) : 0x30 ≤ c.toNat ∧ c.toNat < 0x80 := by
  have cases : ((decide (c.val ≥ 65 ∧ c.val ≤ 90) || c.val ≥ 97 && c.val ≤ 122) ||
      c.val ≥ 48 && c.val ≤ 57) = true := ascii
  have codes : (0x41 ≤ c.toNat ∧ c.toNat ≤ 0x5a ∨ 0x61 ≤ c.toNat ∧ c.toNat ≤ 0x7a) ∨
      0x30 ≤ c.toNat ∧ c.toNat ≤ 0x39 := by
    simpa [UInt32.le_iff_toNat_le] using cases
  omega

theorem isNamePart_iff (wide : 0x80 ≤ c.toNat) :
    isNamePart c = true ↔
      c = '\u200c' ∨ c = '\u200d' ∨ inRanges idContinueRanges c.toNat = true := by
  have noAscii : c.isAlphanum = false := by
    cases ascii : c.isAlphanum with
    | false => rfl
    | true => exact absurd (toNat_of_isAlphanum ascii).2 (Nat.not_lt.mpr wide)
  have noMark : c ≠ '$' ∧ c ≠ '_' := by
    constructor <;> rintro rfl <;> exact absurd wide (by decide)
  simp [isNamePart, noAscii, noMark, wide, or_assoc]

theorem isNamePart_of_isNameStart (start : isNameStart c = true) : isNamePart c = true := by
  simp only [isNameStart, Bool.or_eq_true, Bool.and_eq_true, decide_eq_true_eq, beq_iff_eq] at start
  rcases start with ((letter | mark) | mark) | ⟨wide, listed⟩
  · simp [isNamePart, Char.isAlphanum, letter]
  · simp [isNamePart, mark]
  · simp [isNamePart, mark]
  · refine (isNamePart_iff wide).mpr (.inr (.inr ?_))
    obtain ⟨-, -, sorted, sortedOthers⟩ := increasing_tables
    have kept := inRanges_difference sorted sortedOthers c.toNat
    rw [difference_tables.2.2.1] at kept
    grind [inRanges]

/-- A letter or number is stray exactly if no name holds it. -/
theorem isStray_iff :
    isStray c = true ↔
      (isAlphabetic c = true ∨ isNumeric c = true) ∧ ¬isNamePart c = true := by
  obtain ⟨sortedLetters, sortedNumbers, -, sortedParts⟩ := increasing_tables
  obtain ⟨strayLetters, strayNumbers, -, joiners⟩ := difference_tables
  have letters := inRanges_difference sortedLetters sortedParts c.toNat
  have numbers := inRanges_difference sortedNumbers sortedParts c.toNat
  rw [strayLetters] at letters
  rw [strayNumbers] at numbers
  rw [isStray, Bool.or_eq_true, letters, numbers]
  by_cases wide : 0x80 ≤ c.toNat
  · have noAscii : c.isAlpha = false ∧ c.isDigit = false := by
      have wider : ¬c.isAlphanum = true :=
        fun ascii => Nat.not_lt.mpr wide (toNat_of_isAlphanum ascii).2
      simpa [Char.isAlphanum] using wider
    have joiner : c = '\u200c' ∨ c = '\u200d' →
        ¬inRanges alphabeticRanges c.toNat = true ∧ ¬inRanges numericRanges c.toNat = true := by
      intro either
      simpa using List.all_eq_true.mp joiners c (by simpa using either)
    rw [isNamePart_iff wide]
    simp only [isAlphabetic, isNumeric, noAscii, wide, Bool.false_or, decide_true, Bool.true_and]
    grind
  · -- the tables start beyond ASCII, where the classes are spelled out
    have narrow :
        ¬inRanges alphabeticRanges c.toNat = true ∧ ¬inRanges numericRanges c.toNat = true :=
      ⟨fun inside => wide (le_of_inRanges sortedLetters inside),
        fun inside => wide (le_of_inRanges sortedNumbers inside)⟩
    simp only [narrow, isAlphabetic, isNumeric, wide, isNamePart, Char.isAlphanum]
    grind

end Characters

section Names

variable {name : String}

/-- A name that a configuration may give is an identifier name exactly if its first character may
start one and none of the others is stray. -/
theorem isIdentifierName_iff (plain : isPlainName name = true) :
    isIdentifierName name = true ↔
      (∀ c ∈ name.toList.head?, isNameStart c = true) ∧
        ∀ c ∈ name.toList.tail, isStray c = false := by
  unfold isPlainName at plain
  unfold isIdentifierName
  cases characters : name.toList with
  | nil => simp [characters] at plain
  | cons first rest =>
    simp only [characters, Bool.and_eq_true, List.all_eq_true] at plain
    have parts : ∀ c ∈ rest, (isNamePart c = true ↔ isStray c = false) := by
      intro c member
      have wide := plain.2 c member
      simp only [Bool.or_eq_true, beq_iff_eq] at wide
      rcases wide with ((letter | number) | rfl) | rfl
      · simp [← Bool.not_eq_true, isStray_iff, letter]
      · simp [← Bool.not_eq_true, isStray_iff, number]
      · exact ⟨fun _ => rfl, fun _ => rfl⟩
      · exact ⟨fun _ => rfl, fun _ => rfl⟩
    simp only [Bool.and_eq_true, List.all_eq_true, List.head?_cons, List.tail_cons, Option.mem_def,
      Option.some.injEq, forall_eq']
    exact and_congr_right fun _ => forall₂_congr parts

/-- In ASCII the two readings agree. -/
theorem isIdentifierName_of_ascii (plain : isPlainName name = true)
    (ascii : ∀ c ∈ name.toList, c.toNat < 0x80) : isIdentifierName name = true := by
  rw [isIdentifierName_iff plain]
  unfold isPlainName at plain
  cases characters : name.toList with
  | nil => simp
  | cons first rest =>
    simp only [characters, Bool.and_eq_true, Bool.or_eq_true, beq_iff_eq] at plain
    have narrow : ∀ c ∈ first :: rest, ¬0x80 ≤ c.toNat := by
      rw [← characters]
      exact fun c member => Nat.not_le.mpr (ascii c member)
    simp only [List.head?_cons, List.tail_cons, Option.mem_def, Option.some.injEq, forall_eq']
    constructor
    · have start := plain.1
      simp only [isAlphabetic, narrow first List.mem_cons_self] at start
      simp only [isNameStart]
      grind
    · intro c member
      apply Bool.eq_false_iff.mpr
      intro stray
      obtain ⟨wide, noPart⟩ := isStray_iff.mp stray
      have code := narrow c (List.mem_cons_of_mem _ member)
      simp only [isAlphabetic, isNumeric, code, decide_false, Bool.false_and, Bool.or_false] at wide
      apply noPart
      rcases wide with letter | digit
      · simp [isNamePart, Char.isAlphanum, letter]
      · simp [isNamePart, Char.isAlphanum, digit]

end Names

end GrammarEmbed.Text
