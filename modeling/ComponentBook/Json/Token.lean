import ComponentBook.Json.Value
import ComponentBook.Number.Reading

/-! # JSON tokens

A JSON text is first cut into tokens: marks, texts, numbers and words (**`Json.tokens`**). Every token
takes at least one character, so the cutting ends (`length_of_token?`). -/

namespace ComponentBook.Json

/-- Why a text cannot be read. -/
inductive Fault where
  /-- It is not well written. -/
  | malformed
  /-- It holds a whole number with too many digits, or is nested too deeply. -/
  | tooLarge
  /-- Its bytes are no text. -/
  | unreadable
  deriving DecidableEq, Repr

/-- A piece of a JSON text. -/
inductive Token where
  | openArray
  | closeArray
  | openObject
  | closeObject
  | comma
  | colon
  /-- A value without parts. -/
  | leaf (v : Value)
  /-- A place that no token starts at; the text is not cut any further. -/
  | broken (fault : Fault)

/-- A blank between tokens. -/
def isBlank (c : Char) : Bool := c = ' ' || c = '\t' || c = '\n' || c = '\r'

/-- The value of four hexadecimal digits. -/
def fourDigits? (a b c d : Char) : Option Nat := do
  let hex (c : Char) : Option Nat := if c.toNat < 128 then Number.digit? 16 c else none
  return (((← hex a) * 16 + (← hex b)) * 16 + (← hex c)) * 16 + (← hex d)

/-- The character that a letter stands for behind a backslash. -/
def escaped? : Char → Option Char
  | '"' => some '"'
  | '\\' => some '\\'
  | '/' => some '/'
  | 'b' => some '\x08'
  | 'f' => some '\x0c'
  | 'n' => some '\n'
  | 'r' => some '\r'
  | 't' => some '\t'
  | _ => none

/-- The code points up to the closing quote, halves of pairs by themselves, and the text behind
it. -/
def readCodes : Text → Option (List Nat × Text)
  | [] => none
  | '"' :: t => some ([], t)
  | '\\' :: 'u' :: a :: b :: c :: d :: t =>
    match fourDigits? a b c d with
    | some n => (readCodes t).map fun (ns, t) => (n :: ns, t)
    | none => none
  | '\\' :: c :: t =>
    match escaped? c with
    | some c => (readCodes t).map fun (ns, t) => (c.toNat :: ns, t)
    | none => none
  | c :: t => if c.toNat < 32 then none else (readCodes t).map fun (ns, t) => (c.toNat :: ns, t)

/-- What is behind a text is shorter than the text. -/
theorem length_of_readCodes {t r : Text} {ns : List Nat} (h : readCodes t = some (ns, r)) :
    r.length < t.length := by
  fun_induction readCodes t generalizing ns r with
  | case1 => simp at h
  | case2 t => simp at h; simp [← h.2]
  | case3 a b c d t n hn ih =>
    obtain ⟨⟨ms, s⟩, hs, heq⟩ := Option.map_eq_some_iff.1 h
    have := ih hs
    simp at heq; simp [← heq.2]; omega
  | case4 => simp at h
  | case5 c t _ x hx ih =>
    obtain ⟨⟨ms, s⟩, hs, heq⟩ := Option.map_eq_some_iff.1 h
    have := ih hs
    simp at heq; simp [← heq.2]; omega
  | case6 => simp at h
  | case7 => simp at h
  | case8 c t _ _ _ hc ih =>
    obtain ⟨⟨ms, s⟩, hs, heq⟩ := Option.map_eq_some_iff.1 h
    have := ih hs
    simp at heq; simp [← heq.2]; omega

/-- The words that stand for values. -/
def words : List (Text × Value) := [
  ("null".toList, .null), ("true".toList, .boolean true), ("false".toList, .boolean false),
  ("NaN".toList, .decimal .undefined), ("Infinity".toList, .decimal (.infinite false)),
  ("-Infinity".toList, .decimal (.infinite true))]

/-- The word at the start of a text, and the text behind it. -/
def readWord (t : Text) : Option (Value × Text) :=
  words.findSome? fun (word, v) => (Text.dropPrefix? word t).map fun rest => (v, rest)

/-- The digits at the start of a text, and the text behind them. -/
def readDigits (t : Text) : Text × Text := (t.takeWhile Char.isDigit, t.dropWhile Char.isDigit)

/-- The digits behind a decimal point, if they are there, and the text behind them. -/
def readPlaces : Text → Text × Text
  | '.' :: t =>
    match readDigits t with
    | ([], _) => ([], '.' :: t)
    | places => places
  | t => ([], t)

/-- The power of ten behind a number, if it is there, and the text behind it. -/
def readPower (t : Text) : Option Int × Text :=
  match t with
  | c :: rest =>
    if c = 'e' ∨ c = 'E' then
      let (negative, rest) := Number.sign rest
      match readDigits rest with
      | ([], _) => (none, t)
      | (ds, rest) =>
        let n : Int := Number.value 10 (ds.filterMap (Number.digit? 10))
        (some (if negative then -n else n), rest)
    else (none, t)
  | [] => (none, [])

/-- A minus in front of a number, and the text behind it. -/
def readMinus : Text → Bool × Text
  | '-' :: t => (true, t)
  | t => (false, t)

/-- The digits in front of a decimal point, and the text behind them. They start with a zero only
when that is the only one. -/
def readWhole : Text → Text × Text
  | '0' :: t => (['0'], t)
  | t => readDigits t

/-- The number that digits write, before and behind a decimal point, with a power of ten. -/
def number (negative : Bool) (whole places : Text) (power : Option Int) : Except Fault Value :=
  let n := Number.value 10 ((whole ++ places).filterMap (Number.digit? 10))
  if !places.isEmpty || power.isSome then
    .ok (.decimal (.ofDecimal negative n (power.getD 0 - places.length)))
  else if Number.digitLimit < whole.length then .error .tooLarge
  else .ok (.integer (if negative then -n else n))

/-- The number at the start of a text, and the text behind it. -/
def readNumber (t : Text) : Except Fault (Value × Text) :=
  let minus := readMinus t
  let whole := readWhole minus.2
  let places := readPlaces whole.2
  let power := readPower places.2
  if whole.1.isEmpty then .error .malformed
  else (number minus.1 whole.1 places.1 power.1).map fun v => (v, power.2)

/-- The token at the start of a text that begins with `c`, and the text behind it. -/
def readToken (c : Char) (t : Text) : Except Fault (Token × Text) :=
  match c with
  | '[' => .ok (.openArray, t)
  | ']' => .ok (.closeArray, t)
  | '\x7b' => .ok (.openObject, t)
  | '\x7d' => .ok (.closeObject, t)
  | ',' => .ok (.comma, t)
  | ':' => .ok (.colon, t)
  | '"' =>
    match readCodes t with
    | some (codes, rest) => .ok (.leaf (.string (Codes.joined codes)), rest)
    | none => .error .malformed
  | c =>
    match readWord (c :: t) with
    | some (v, rest) => .ok (.leaf v, rest)
    | none => (readNumber (c :: t)).map fun (v, rest) => (.leaf v, rest)

theorem length_readDigits (t : Text) :
    (readDigits t).1.length + (readDigits t).2.length = t.length := by
  rw [readDigits, ← List.length_append, List.takeWhile_append_dropWhile]

theorem length_readPlaces (t : Text) : (readPlaces t).2.length ≤ t.length := by
  unfold readPlaces
  split
  · next t =>
    have := length_readDigits t
    split
    · exact Nat.le_refl _
    · exact Nat.le_succ_of_le (Nat.le_trans (Nat.le_add_left _ _) (Nat.le_of_eq this))
  · exact Nat.le_refl _

theorem length_readPower (t : Text) : (readPower t).2.length ≤ t.length := by
  have sign_le (t : Text) : (Number.sign t).2.length ≤ t.length := by
    unfold Number.sign; split <;> simp
  unfold readPower
  split
  · next c rest =>
    have h₁ := sign_le rest
    have h₂ := length_readDigits (Number.sign rest).2
    split
    · dsimp only
      split
      · simp
      · next ds r _ h =>
        rw [h] at h₂
        simp at h₂ ⊢; omega
    · simp
  · simp

theorem length_readMinus (t : Text) : (readMinus t).2.length ≤ t.length := by
  unfold readMinus; split <;> simp

theorem length_readWhole (t : Text) :
    (readWhole t).1.length + (readWhole t).2.length = t.length := by
  unfold readWhole
  split
  · simp; omega
  · exact length_readDigits t

/-- What is behind a number is shorter than the text that the number starts. -/
theorem length_of_readNumber {t r : Text} {v : Value} (h : readNumber t = .ok (v, r)) :
    r.length < t.length := by
  unfold readNumber at h
  dsimp only at h
  split at h
  · cases h
  · next hne =>
    have h₁ := length_readMinus t
    have h₂ := length_readWhole (readMinus t).2
    have h₃ := length_readPlaces (readWhole (readMinus t).2).2
    have h₄ := length_readPower (readPlaces (readWhole (readMinus t).2).2).2
    have hpos : 0 < (readWhole (readMinus t).2).1.length := by
      cases hw : (readWhole (readMinus t).2).1 <;> simp_all
    match hn : number (readMinus t).1 (readWhole (readMinus t).2).1
        (readPlaces (readWhole (readMinus t).2).2).1
        (readPower (readPlaces (readWhole (readMinus t).2).2).2).1 with
    | .error _ => rw [hn] at h; cases h
    | .ok w =>
      rw [hn] at h
      have : (readPower (readPlaces (readWhole (readMinus t).2).2).2).2 = r :=
        congrArg Prod.snd (Except.ok.inj h)
      rw [← this]; omega

/-- What is behind a word is shorter than the text that the word starts. -/
theorem length_of_readWord {t r : Text} {v : Value} (h : readWord t = some (v, r)) :
    r.length < t.length := by
  obtain ⟨⟨word, w⟩, hmem, hw⟩ := List.exists_of_findSome?_eq_some h
  obtain ⟨rest, hrest, heq⟩ := Option.map_eq_some_iff.1 hw
  have hne : 0 < word.length := by
    simp [words] at hmem
    rcases hmem with h | h | h | h | h | h <;> simp [h.1]
  rw [Text.dropPrefix?_eq_some_iff.1 hrest]
  simp at heq
  simp [← heq.2]; omega

/-- What is behind a token is no longer than what is behind its first character. -/
theorem length_of_readToken {c : Char} {t r : Text} {k : Token}
    (h : readToken c t = .ok (k, r)) : r.length ≤ t.length := by
  unfold readToken at h
  split at h <;> try (cases h; exact Nat.le_refl _)
  · split at h
    · next codes rest hcodes =>
      cases h
      exact Nat.le_of_lt (length_of_readCodes hcodes)
    · cases h
  · split at h
    · next v rest hword =>
      cases h
      exact Nat.le_of_lt_succ (length_of_readWord hword)
    · generalize hn : readNumber (_ :: t) = n at h
      cases n with
      | error => cases h
      | ok n =>
        cases h
        exact Nat.le_of_lt_succ (length_of_readNumber hn)

/-- The tokens of a text. -/
def tokens : Text → List Token
  | [] => []
  | c :: t =>
    if isBlank c then tokens t else
    match _ : readToken c t with
    | .error fault => [.broken fault]
    | .ok (token, rest) => token :: tokens rest
termination_by t => t.length
decreasing_by
  · simp
  · have := length_of_readToken ‹readToken c t = .ok (token, rest)›
    simp; omega

end ComponentBook.Json
