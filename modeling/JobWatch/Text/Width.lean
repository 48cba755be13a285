import JobWatch.Text.Blank

/-!
How many columns of a terminal a line takes. East Asian wide characters and emoji take two,
control characters and combining accents take none. Sequences of emoji that are joined, modified
or closed by a variation selector count as one emoji. The tables follow Unicode 12.
-/
namespace JobWatch.Text

def wideRanges : List (Nat × Nat) :=
  [(0x1100, 0x115F), (0x2329, 0x232A), (0x2E80, 0x303E), (0x3040, 0x3247), (0x3250, 0x4DBF),
    (0x4E00, 0xA4C6), (0xA960, 0xA97C), (0xAC00, 0xD7A3), (0xF900, 0xFAFF), (0xFE10, 0xFE19),
    (0xFE30, 0xFE6B), (0xFF01, 0xFF60), (0xFFE0, 0xFFE6), (0x1B000, 0x1B001),
    (0x1F200, 0x1F251), (0x20000, 0x3FFFD)]

/-- Characters that are shown as emoji by themselves. -/
def emojiRanges : List (Nat × Nat) :=
  [(0x231A, 0x231B), (0x23E9, 0x23EC), (0x23F0, 0x23F0), (0x23F3, 0x23F3), (0x25FD, 0x25FE),
    (0x2614, 0x2615), (0x2648, 0x2653), (0x267F, 0x267F), (0x2693, 0x2693), (0x26A1, 0x26A1),
    (0x26AA, 0x26AB), (0x26BD, 0x26BE), (0x26C4, 0x26C5), (0x26CE, 0x26CE), (0x26D4, 0x26D4),
    (0x26EA, 0x26EA), (0x26F2, 0x26F3), (0x26F5, 0x26F5), (0x26FA, 0x26FA), (0x26FD, 0x26FD),
    (0x2705, 0x2705), (0x270A, 0x270B), (0x2728, 0x2728), (0x274C, 0x274C), (0x274E, 0x274E),
    (0x2753, 0x2755), (0x2757, 0x2757), (0x2795, 0x2797), (0x27B0, 0x27B0), (0x27BF, 0x27BF),
    (0x2B1B, 0x2B1C), (0x2B50, 0x2B50), (0x2B55, 0x2B55), (0x1F004, 0x1F004),
    (0x1F0CF, 0x1F0CF), (0x1F18E, 0x1F18E), (0x1F191, 0x1F19A), (0x1F1E6, 0x1F1FF),
    (0x1F201, 0x1F201), (0x1F21A, 0x1F21A), (0x1F22F, 0x1F22F), (0x1F232, 0x1F236),
    (0x1F238, 0x1F23A), (0x1F250, 0x1F251), (0x1F300, 0x1F320), (0x1F32D, 0x1F335),
    (0x1F337, 0x1F37C), (0x1F37E, 0x1F393), (0x1F3A0, 0x1F3CA), (0x1F3CF, 0x1F3D3),
    (0x1F3E0, 0x1F3F0), (0x1F3F4, 0x1F3F4), (0x1F3F8, 0x1F43E), (0x1F440, 0x1F440),
    (0x1F442, 0x1F4FC), (0x1F4FF, 0x1F53D), (0x1F54B, 0x1F54E), (0x1F550, 0x1F567),
    (0x1F57A, 0x1F57A), (0x1F595, 0x1F596), (0x1F5A4, 0x1F5A4), (0x1F5FB, 0x1F64F),
    (0x1F680, 0x1F6C5), (0x1F6CC, 0x1F6CC), (0x1F6D0, 0x1F6D2), (0x1F6D5, 0x1F6D5),
    (0x1F6EB, 0x1F6EC), (0x1F6F4, 0x1F6FA), (0x1F7E0, 0x1F7EB), (0x1F90D, 0x1F93A),
    (0x1F93C, 0x1F945), (0x1F947, 0x1F971), (0x1F973, 0x1F976), (0x1F97A, 0x1F9A2),
    (0x1F9A5, 0x1F9AA), (0x1F9AE, 0x1F9CA), (0x1F9CD, 0x1F9FF), (0x1FA70, 0x1FA73),
    (0x1FA78, 0x1FA7A), (0x1FA80, 0x1FA82), (0x1FA90, 0x1FA95)]

/-- Symbols that are shown as emoji only when a variation selector follows. -/
def symbolRanges : List (Nat × Nat) :=
  [(0xA9, 0xA9), (0xAE, 0xAE), (0x203C, 0x203C), (0x2049, 0x2049), (0x2122, 0x2122),
    (0x2139, 0x2139), (0x2194, 0x2199), (0x21A9, 0x21AA), (0x2328, 0x2328), (0x23CF, 0x23CF),
    (0x23ED, 0x23EF), (0x23F1, 0x23F2), (0x23F8, 0x23FA), (0x24C2, 0x24C2), (0x25AA, 0x25AB),
    (0x25B6, 0x25B6), (0x25C0, 0x25C0), (0x25FB, 0x25FC), (0x2600, 0x2604), (0x260E, 0x260E),
    (0x2611, 0x2611), (0x2618, 0x2618), (0x261D, 0x261D), (0x2620, 0x2620), (0x2622, 0x2623),
    (0x2626, 0x2626), (0x262A, 0x262A), (0x262E, 0x262F), (0x2638, 0x263A), (0x2640, 0x2640),
    (0x2642, 0x2642), (0x265F, 0x2660), (0x2663, 0x2663), (0x2665, 0x2666), (0x2668, 0x2668),
    (0x267B, 0x267B), (0x267E, 0x267E), (0x2692, 0x2692), (0x2694, 0x2697), (0x2699, 0x2699),
    (0x269B, 0x269C), (0x26A0, 0x26A0), (0x26B0, 0x26B1), (0x26C8, 0x26C8), (0x26CF, 0x26CF),
    (0x26D1, 0x26D1), (0x26D3, 0x26D3), (0x26E9, 0x26E9), (0x26F0, 0x26F1), (0x26F4, 0x26F4),
    (0x26F7, 0x26F9), (0x2702, 0x2702), (0x2708, 0x2709), (0x270C, 0x270D), (0x270F, 0x270F),
    (0x2712, 0x2712), (0x2714, 0x2714), (0x2716, 0x2716), (0x271D, 0x271D), (0x2721, 0x2721),
    (0x2733, 0x2734), (0x2744, 0x2744), (0x2747, 0x2747), (0x2763, 0x2764), (0x27A1, 0x27A1),
    (0x2934, 0x2935), (0x2B05, 0x2B07), (0x3030, 0x3030), (0x303D, 0x303D), (0x3297, 0x3297),
    (0x3299, 0x3299), (0x1F170, 0x1F171), (0x1F17E, 0x1F17F), (0x1F202, 0x1F202),
    (0x1F237, 0x1F237), (0x1F321, 0x1F321), (0x1F324, 0x1F32C), (0x1F336, 0x1F336),
    (0x1F37D, 0x1F37D), (0x1F396, 0x1F397), (0x1F399, 0x1F39B), (0x1F39E, 0x1F39F),
    (0x1F3CB, 0x1F3CE), (0x1F3D4, 0x1F3DF), (0x1F3F3, 0x1F3F3), (0x1F3F5, 0x1F3F5),
    (0x1F3F7, 0x1F3F7), (0x1F43F, 0x1F43F), (0x1F441, 0x1F441), (0x1F4FD, 0x1F4FD),
    (0x1F549, 0x1F54A), (0x1F56F, 0x1F570), (0x1F573, 0x1F579), (0x1F587, 0x1F587),
    (0x1F58A, 0x1F58D), (0x1F590, 0x1F590), (0x1F5A5, 0x1F5A5), (0x1F5A8, 0x1F5A8),
    (0x1F5B1, 0x1F5B2), (0x1F5BC, 0x1F5BC), (0x1F5C2, 0x1F5C4), (0x1F5D1, 0x1F5D3),
    (0x1F5DC, 0x1F5DE), (0x1F5E1, 0x1F5E1), (0x1F5E3, 0x1F5E3), (0x1F5E8, 0x1F5E8),
    (0x1F5EF, 0x1F5EF), (0x1F5F3, 0x1F5F3), (0x1F5FA, 0x1F5FA), (0x1F6CB, 0x1F6CB),
    (0x1F6CD, 0x1F6CF), (0x1F6E0, 0x1F6E5), (0x1F6E9, 0x1F6E9), (0x1F6F0, 0x1F6F0),
    (0x1F6F3, 0x1F6F3)]

def isSelector (code : Nat) : Bool := code == 0xFE0F

def isModifier (code : Nat) : Bool := 0x1F3FB ≤ code && code ≤ 0x1F3FF

/-- Columns of a single character that is part of no emoji. -/
def codeWidth (code : Nat) : Nat :=
  if code ≤ 0x1F || (0x7F ≤ code && code ≤ 0x9F) || (0x300 ≤ code && code ≤ 0x36F) then 0
  else if inRanges wideRanges code then 2
  else 1

/-- Drops what may follow an emoji within one sequence. -/
def afterEmoji : List Nat → List Nat
  | 0xFE0F :: rest => rest
  | code :: rest => if isModifier code then rest else code :: rest
  | [] => []

/-- Columns of a line given by its code points. `joined` is set behind a joiner, where the next
emoji belongs to the one before. Every step takes a code. -/
def widthFrom : Nat → Bool → List Nat → Nat
  | 0, _, _ => 0
  | _ + 1, _, [] => 0
  | fuel + 1, joined, code :: rest =>
    let follow (rest : List Nat) : Nat :=
      match rest with
      | 0x200D :: next :: more =>
        if inRanges emojiRanges next || inRanges symbolRanges next then
          widthFrom fuel true (next :: more)
        else widthFrom fuel false rest
      | _ => widthFrom fuel false rest
    let cost := if joined then 0 else 2
    if 0x1F1E6 ≤ code && code ≤ 0x1F1FF then
      match rest with
      | next :: more =>
        if 0x1F1E6 ≤ next && next ≤ 0x1F1FF then cost + widthFrom fuel false more
        else cost + widthFrom fuel false rest
      | [] => cost
    else if inRanges emojiRanges code then cost + follow (afterEmoji rest)
    else if inRanges symbolRanges code && (joined || rest.head?.any fun c => isSelector c || isModifier c) then
      cost + follow (afterEmoji rest)
    else match rest with
      | 0xFE0F :: 0x20E3 :: more =>
        if code == 0x23 || code == 0x2A || (0x30 ≤ code && code ≤ 0x39) then
          2 + widthFrom fuel false more
        else codeWidth code + widthFrom fuel false rest
      | _ => codeWidth code + widthFrom fuel false rest

def width (line : List Char) : Nat :=
  let codes := line.map Char.toNat
  widthFrom codes.length false codes

end JobWatch.Text
