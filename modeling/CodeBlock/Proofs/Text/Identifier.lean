import CodeBlock.Proofs.Text.Classes

set_option autoImplicit false

/-! # Identifier names

What the script's language takes for the name of an identifier: a character that may start one, a dollar sign
or a low line, and then characters that may go on with one, dollar signs and the two joiners. Which characters
may start or go on with a name is said by the Unicode standard, in version 16 as for letters and numbers:
letters and letter-like numerals start a name; marks, decimal digits and connecting punctuation go on with it;
a few more of each are listed, and one letter is kept out. -/

namespace CodeBlock.Text

/-! ## Categories -/

/-- The decimal digits: general category Nd. -/
def decimalRuns : CharSet := [
  (48, 57, 1), (1632, 1641, 1), (1776, 1785, 1), (1984, 1993, 1), (2406, 2415, 1), (2534, 2543, 1),
  (2662, 2671, 1), (2790, 2799, 1), (2918, 2927, 1), (3046, 3055, 1), (3174, 3183, 1),
  (3302, 3311, 1), (3430, 3439, 1), (3558, 3567, 1), (3664, 3673, 1), (3792, 3801, 1),
  (3872, 3881, 1), (4160, 4169, 1), (4240, 4249, 1), (6112, 6121, 1), (6160, 6169, 1),
  (6470, 6479, 1), (6608, 6617, 1), (6784, 6793, 1), (6800, 6809, 1), (6992, 7001, 1),
  (7088, 7097, 1), (7232, 7241, 1), (7248, 7257, 1), (42528, 42537, 1), (43216, 43225, 1),
  (43264, 43273, 1), (43472, 43481, 1), (43504, 43513, 1), (43600, 43609, 1), (44016, 44025, 1),
  (65296, 65305, 1), (66720, 66729, 1), (68912, 68921, 1), (68928, 68937, 1), (69734, 69743, 1),
  (69872, 69881, 1), (69942, 69951, 1), (70096, 70105, 1), (70384, 70393, 1), (70736, 70745, 1),
  (70864, 70873, 1), (71248, 71257, 1), (71360, 71369, 1), (71376, 71395, 1), (71472, 71481, 1),
  (71904, 71913, 1), (72016, 72025, 1), (72688, 72697, 1), (72784, 72793, 1), (73040, 73049, 1),
  (73120, 73129, 1), (73552, 73561, 1), (90416, 90425, 1), (92768, 92777, 1), (92864, 92873, 1),
  (93008, 93017, 1), (93552, 93561, 1), (118000, 118009, 1), (120782, 120831, 1),
  (123200, 123209, 1), (123632, 123641, 1), (124144, 124153, 1), (124401, 124410, 1),
  (125264, 125273, 1), (130032, 130041, 1)]

/-- The letter-like numerals: general category Nl. -/
def letterNumberRuns : CharSet := [
  (5870, 5872, 1), (8544, 8578, 1), (8581, 8584, 1), (12295, 12295, 1), (12321, 12329, 1),
  (12344, 12346, 1), (42726, 42735, 1), (65856, 65908, 1), (66369, 66369, 1), (66378, 66378, 1),
  (66513, 66517, 1), (74752, 74862, 1)]

/-- The marks, with a width of their own or without: general categories Mn and Mc. -/
def markRuns : CharSet := [
  (768, 879, 1), (1155, 1159, 1), (1425, 1469, 1), (1471, 1471, 1), (1473, 1474, 1),
  (1476, 1477, 1), (1479, 1479, 1), (1552, 1562, 1), (1611, 1631, 1), (1648, 1648, 1),
  (1750, 1756, 1), (1759, 1764, 1), (1767, 1768, 1), (1770, 1773, 1), (1809, 1809, 1),
  (1840, 1866, 1), (1958, 1968, 1), (2027, 2035, 1), (2045, 2045, 1), (2070, 2073, 1),
  (2075, 2083, 1), (2085, 2087, 1), (2089, 2093, 1), (2137, 2139, 1), (2199, 2207, 1),
  (2250, 2273, 1), (2275, 2307, 1), (2362, 2364, 1), (2366, 2383, 1), (2385, 2391, 1),
  (2402, 2403, 1), (2433, 2435, 1), (2492, 2492, 1), (2494, 2500, 1), (2503, 2504, 1),
  (2507, 2509, 1), (2519, 2519, 1), (2530, 2531, 1), (2558, 2558, 1), (2561, 2563, 1),
  (2620, 2620, 1), (2622, 2626, 1), (2631, 2632, 1), (2635, 2637, 1), (2641, 2641, 1),
  (2672, 2673, 1), (2677, 2677, 1), (2689, 2691, 1), (2748, 2748, 1), (2750, 2757, 1),
  (2759, 2761, 1), (2763, 2765, 1), (2786, 2787, 1), (2810, 2815, 1), (2817, 2819, 1),
  (2876, 2876, 1), (2878, 2884, 1), (2887, 2888, 1), (2891, 2893, 1), (2901, 2903, 1),
  (2914, 2915, 1), (2946, 2946, 1), (3006, 3010, 1), (3014, 3016, 1), (3018, 3021, 1),
  (3031, 3031, 1), (3072, 3076, 1), (3132, 3132, 1), (3134, 3140, 1), (3142, 3144, 1),
  (3146, 3149, 1), (3157, 3158, 1), (3170, 3171, 1), (3201, 3203, 1), (3260, 3260, 1),
  (3262, 3268, 1), (3270, 3272, 1), (3274, 3277, 1), (3285, 3286, 1), (3298, 3299, 1),
  (3315, 3315, 1), (3328, 3331, 1), (3387, 3388, 1), (3390, 3396, 1), (3398, 3400, 1),
  (3402, 3405, 1), (3415, 3415, 1), (3426, 3427, 1), (3457, 3459, 1), (3530, 3530, 1),
  (3535, 3540, 1), (3542, 3542, 1), (3544, 3551, 1), (3570, 3571, 1), (3633, 3633, 1),
  (3636, 3642, 1), (3655, 3662, 1), (3761, 3761, 1), (3764, 3772, 1), (3784, 3790, 1),
  (3864, 3865, 1), (3893, 3893, 1), (3895, 3895, 1), (3897, 3897, 1), (3902, 3903, 1),
  (3953, 3972, 1), (3974, 3975, 1), (3981, 3991, 1), (3993, 4028, 1), (4038, 4038, 1),
  (4139, 4158, 1), (4182, 4185, 1), (4190, 4192, 1), (4194, 4196, 1), (4199, 4205, 1),
  (4209, 4212, 1), (4226, 4237, 1), (4239, 4239, 1), (4250, 4253, 1), (4957, 4959, 1),
  (5906, 5909, 1), (5938, 5940, 1), (5970, 5971, 1), (6002, 6003, 1), (6068, 6099, 1),
  (6109, 6109, 1), (6155, 6157, 1), (6159, 6159, 1), (6277, 6278, 1), (6313, 6313, 1),
  (6432, 6443, 1), (6448, 6459, 1), (6679, 6683, 1), (6741, 6750, 1), (6752, 6780, 1),
  (6783, 6783, 1), (6832, 6845, 1), (6847, 6862, 1), (6912, 6916, 1), (6964, 6980, 1),
  (7019, 7027, 1), (7040, 7042, 1), (7073, 7085, 1), (7142, 7155, 1), (7204, 7223, 1),
  (7376, 7378, 1), (7380, 7400, 1), (7405, 7405, 1), (7412, 7412, 1), (7415, 7417, 1),
  (7616, 7679, 1), (8400, 8412, 1), (8417, 8417, 1), (8421, 8432, 1), (11503, 11505, 1),
  (11647, 11647, 1), (11744, 11775, 1), (12330, 12335, 1), (12441, 12442, 1), (42607, 42607, 1),
  (42612, 42621, 1), (42654, 42655, 1), (42736, 42737, 1), (43010, 43010, 1), (43014, 43014, 1),
  (43019, 43019, 1), (43043, 43047, 1), (43052, 43052, 1), (43136, 43137, 1), (43188, 43205, 1),
  (43232, 43249, 1), (43263, 43263, 1), (43302, 43309, 1), (43335, 43347, 1), (43392, 43395, 1),
  (43443, 43456, 1), (43493, 43493, 1), (43561, 43574, 1), (43587, 43587, 1), (43596, 43597, 1),
  (43643, 43645, 1), (43696, 43696, 1), (43698, 43700, 1), (43703, 43704, 1), (43710, 43711, 1),
  (43713, 43713, 1), (43755, 43759, 1), (43765, 43766, 1), (44003, 44010, 1), (44012, 44013, 1),
  (64286, 64286, 1), (65024, 65039, 1), (65056, 65071, 1), (66045, 66045, 1), (66272, 66272, 1),
  (66422, 66426, 1), (68097, 68099, 1), (68101, 68102, 1), (68108, 68111, 1), (68152, 68154, 1),
  (68159, 68159, 1), (68325, 68326, 1), (68900, 68903, 1), (68969, 68973, 1), (69291, 69292, 1),
  (69372, 69375, 1), (69446, 69456, 1), (69506, 69509, 1), (69632, 69634, 1), (69688, 69702, 1),
  (69744, 69744, 1), (69747, 69748, 1), (69759, 69762, 1), (69808, 69818, 1), (69826, 69826, 1),
  (69888, 69890, 1), (69927, 69940, 1), (69957, 69958, 1), (70003, 70003, 1), (70016, 70018, 1),
  (70067, 70080, 1), (70089, 70092, 1), (70094, 70095, 1), (70188, 70199, 1), (70206, 70206, 1),
  (70209, 70209, 1), (70367, 70378, 1), (70400, 70403, 1), (70459, 70460, 1), (70462, 70468, 1),
  (70471, 70472, 1), (70475, 70477, 1), (70487, 70487, 1), (70498, 70499, 1), (70502, 70508, 1),
  (70512, 70516, 1), (70584, 70592, 1), (70594, 70594, 1), (70597, 70597, 1), (70599, 70602, 1),
  (70604, 70608, 1), (70610, 70610, 1), (70625, 70626, 1), (70709, 70726, 1), (70750, 70750, 1),
  (70832, 70851, 1), (71087, 71093, 1), (71096, 71104, 1), (71132, 71133, 1), (71216, 71232, 1),
  (71339, 71351, 1), (71453, 71467, 1), (71724, 71738, 1), (71984, 71989, 1), (71991, 71992, 1),
  (71995, 71998, 1), (72000, 72000, 1), (72002, 72003, 1), (72145, 72151, 1), (72154, 72160, 1),
  (72164, 72164, 1), (72193, 72202, 1), (72243, 72249, 1), (72251, 72254, 1), (72263, 72263, 1),
  (72273, 72283, 1), (72330, 72345, 1), (72751, 72758, 1), (72760, 72767, 1), (72850, 72871, 1),
  (72873, 72886, 1), (73009, 73014, 1), (73018, 73018, 1), (73020, 73021, 1), (73023, 73029, 1),
  (73031, 73031, 1), (73098, 73102, 1), (73104, 73105, 1), (73107, 73111, 1), (73459, 73462, 1),
  (73472, 73473, 1), (73475, 73475, 1), (73524, 73530, 1), (73534, 73538, 1), (73562, 73562, 1),
  (78912, 78912, 1), (78919, 78933, 1), (90398, 90415, 1), (92912, 92916, 1), (92976, 92982, 1),
  (94031, 94031, 1), (94033, 94087, 1), (94095, 94098, 1), (94180, 94180, 1), (94192, 94193, 1),
  (113821, 113822, 1), (118528, 118573, 1), (118576, 118598, 1), (119141, 119145, 1),
  (119149, 119154, 1), (119163, 119170, 1), (119173, 119179, 1), (119210, 119213, 1),
  (119362, 119364, 1), (121344, 121398, 1), (121403, 121452, 1), (121461, 121461, 1),
  (121476, 121476, 1), (121499, 121503, 1), (121505, 121519, 1), (122880, 122886, 1),
  (122888, 122904, 1), (122907, 122913, 1), (122915, 122916, 1), (122918, 122922, 1),
  (123023, 123023, 1), (123184, 123190, 1), (123566, 123566, 1), (123628, 123631, 1),
  (124140, 124143, 1), (124398, 124399, 1), (125136, 125142, 1), (125252, 125258, 1),
  (917760, 917999, 1)]

/-- The connecting punctuation: general category Pc. -/
def connectorRuns : CharSet := [
  (95, 95, 1), (8255, 8256, 1), (8276, 8276, 1), (65075, 65076, 1), (65101, 65103, 1),
  (65343, 65343, 1)]

/-- The characters that are listed as starting a name, whatever their category. -/
def otherStartRuns : CharSet := [
  (6277, 6278, 1), (8472, 8472, 1), (8494, 8494, 1), (12443, 12444, 1)]

/-- The characters that are listed as going on with a name, whatever their category. -/
def otherContinueRuns : CharSet := [
  (183, 183, 1), (903, 903, 1), (4969, 4977, 1), (6618, 6618, 1), (8204, 8205, 1),
  (12539, 12539, 1), (65381, 65381, 1)]

/-- The one letter that is a part of no name: patterns are written with it. -/
def verticalTilde : Char := '\u2e2f'

/-! ## Names -/

/-- Whether a name may start with `c`. -/
def isIdStart (c : Char) : Bool :=
  (isLetter c || letterNumberRuns.contains c || otherStartRuns.contains c) && c != verticalTilde

/-- Whether a name may go on with `c`. -/
def isIdContinue (c : Char) : Bool :=
  isIdStart c || markRuns.contains c || decimalRuns.contains c || connectorRuns.contains c ||
    otherContinueRuns.contains c

def isIdentifierName : List Char → Bool
  | [] => false
  | c :: rest =>
      (isIdStart c || c == '$' || c == '_') &&
        rest.all fun c => isIdContinue c || c == '$' || c == '\u200c' || c == '\u200d'

/-- Whether `c` is a letter or a number and yet a part of no name: the vertical tilde, and the numbers that are
    neither digits nor letter-like nor listed, such as fractions, circled numbers and raised digits. -/
def isStray (c : Char) : Bool :=
  c == verticalTilde ||
    (isNumber c && !decimalRuns.contains c && !letterNumberRuns.contains c && !otherContinueRuns.contains c)

/-! ## Letters and numbers in names -/

/-- No number is of another category, or listed as starting a name. -/
theorem isNumber_apart {c : Char} (h : isNumber c = true) :
    isLetter c = false ∧ markRuns.contains c = false ∧ connectorRuns.contains c = false ∧
      otherStartRuns.contains c = false := by
  have hnumbers : numberRuns.isAscending = true := by decide +kernel
  exact ⟨CharSet.contains_of_isApartFrom hnumbers (by decide +kernel) (by decide +kernel) h,
    CharSet.contains_of_isApartFrom hnumbers (by decide +kernel) (by decide +kernel) h,
    CharSet.contains_of_isApartFrom hnumbers (by decide +kernel) (by decide +kernel) h,
    CharSet.contains_of_isApartFrom hnumbers (by decide +kernel) (by decide +kernel) h⟩

theorem isLetter_verticalTilde : isLetter verticalTilde = true := by decide +kernel

theorem isIdStart_of_isLetter {c : Char} (h : isLetter c = true) : isIdStart c = !isStray c := by
  have hnumber : isNumber c = false := by
    rw [← Bool.not_eq_true]
    intro hnumber
    rw [(isNumber_apart hnumber).1] at h
    exact Bool.false_ne_true h
  rw [isIdStart, isStray, h, hnumber]
  simp [bne]

/-- Each number goes on with a name, unless it is a stray. -/
theorem isIdContinue_of_isNumber {c : Char} (h : isNumber c = true) : isIdContinue c = !isStray c := by
  obtain ⟨hletter, hmark, hconnector, hstart⟩ := isNumber_apart h
  have htilde : (c == verticalTilde) = false := by
    rw [beq_eq_false_iff_ne]
    rintro rfl
    rw [isLetter_verticalTilde] at hletter
    exact Bool.false_ne_true hletter.symm
  rw [isIdContinue, isIdStart, isStray, hletter, hmark, hconnector, hstart, h, htilde, bne, htilde]
  simp [Bool.or_comm]

theorem isIdContinue_of_isLetter {c : Char} (h : isLetter c = true) : isIdContinue c = !isStray c := by
  have hstart := isIdStart_of_isLetter h
  cases hstray : isStray c with
  | false => simp [isIdContinue, hstart, hstray]
  | true =>
      -- a stray letter is the vertical tilde, of which it is seen at once
      have htilde : c = verticalTilde := by
        simpa [hstray, isIdStart, h] using hstart
      rw [htilde]
      decide +kernel

end CodeBlock.Text
