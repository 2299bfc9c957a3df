import Relaunch.Json.Reader

/-!
# Proofs/Json/Token — the tokens of a JSON text, apart from any reader

Each form of text is a relation between two inputs: the second is what is left of the first behind
the form.  Forms are put together by handing on what is left, and white space belongs to the token
that follows it.

* `Token.skipSpace` — what a reader finds where a token stands.
* `Spells.stringBody` — a string is read for the characters it spells, however they are spelled.
-/

namespace Relaunch.Json

/-! ## White space and tokens -/

/-- **White space**, as much as there is of it or less. -/
def Blank (s t : Input) : Prop := ∃ gs : Input, (∀ g ∈ gs, isSpace g = true) ∧ s = gs ++ t

/-- White space and one character. -/
def Token (c : Char) (s t : Input) : Prop := Blank s (.char c :: t)

theorem Blank.refl (s : Input) : Blank s s := ⟨[], nofun, rfl⟩

theorem Blank.length_le {s t : Input} (blank : Blank s t) : t.length ≤ s.length := by
  obtain ⟨gs, -, rfl⟩ := blank
  rw [List.length_append]
  omega

theorem Blank.skipSpace {s t : Input} (blank : Blank s t) : skipSpace s = skipSpace t := by
  obtain ⟨gs, spaces, rfl⟩ := blank
  exact List.dropWhile_append_of_pos spaces

theorem blank_skipSpace (s : Input) : Blank s (skipSpace s) :=
  ⟨s.takeWhile isSpace, List.all_eq_true.mp List.all_takeWhile,
    List.takeWhile_append_dropWhile.symm⟩

@[simp] theorem skipSpace_skipSpace (s : Input) : skipSpace (skipSpace s) = skipSpace s :=
  (blank_skipSpace s).skipSpace.symm

theorem skipSpace_cons {g : Glyph} (solid : isSpace g = false) (t : Input) :
    skipSpace (g :: t) = g :: t := List.dropWhile_cons_of_neg (by rw [solid]; nofun)

theorem Token.length_lt {c : Char} {s t : Input} (token : Token c s t) : t.length < s.length :=
  Blank.length_le token

theorem Token.skipSpace {c : Char} {s t : Input} (token : Token c s t)
    (solid : isSpace (.char c) = false) : skipSpace s = .char c :: t :=
  (Blank.skipSpace token).trans (skipSpace_cons solid t)

theorem Token.colon {s t : Input} (token : Token ':' s t) : colon s = .ok t := by
  simp only [Json.colon, token.skipSpace rfl]

theorem word_eq_ok_iff {cs : List Char} {s t : Input} :
    word cs s = .ok t ↔ s = cs.map .char ++ t := by
  induction cs generalizing s with
  | nil => exact ⟨fun eq => Except.ok.inj eq, fun eq => congrArg Except.ok eq⟩
  | cons c cs ih =>
    cases s with
    | nil => exact ⟨nofun, nofun⟩
    | cons g s =>
      rw [word, List.map_cons, List.cons_append, List.cons.injEq, ← ih]
      split
      · rename_i same
        exact ⟨fun eq => ⟨same, eq⟩, fun h => h.2⟩
      · rename_i other
        exact ⟨nofun, fun h => absurd h.1 other⟩

/-! ## Strings -/

/-- Four hexadecimal digits and their value. -/
def Quad (n : Nat) (s t : Input) : Prop :=
  ∃ a b c d w x y z, hexDigit? a = some w ∧ hexDigit? b = some x ∧ hexDigit? c = some y ∧
    hexDigit? d = some z ∧ s = .char a :: .char b :: .char c :: .char d :: t ∧
    n = ((w * 16 + x) * 16 + y) * 16 + z

/-- **A character of a string**: itself, by the letter that names it, by its code, or by the codes
of a pair of surrogates. -/
inductive Spelled : Char → Input → Input → Prop
  | plain (c : Char) (t : Input) (quote : c ≠ '"') (backslash : c ≠ '\\')
      (printable : 0x20 ≤ c.toNat) : Spelled c (.char c :: t) t
  | named (l c : Char) (t : Input) (names : named? l = some c) :
      Spelled c (.char '\\' :: .char l :: t) t
  | coded (n : Nat) (s t : Input) (code : Quad n s t) (whole : n < 0xD800 ∨ 0xDFFF < n) :
      Spelled (Char.ofNat n) (.char '\\' :: .char 'u' :: s) t
  | paired (n m : Nat) (s u t : Input) (high : Quad n s (.char '\\' :: .char 'u' :: u))
      (high_bounds : 0xD800 ≤ n ∧ n ≤ 0xDBFF) (low : Quad m u t)
      (low_bounds : 0xDC00 ≤ m ∧ m ≤ 0xDFFF) :
      Spelled (Char.ofNat ((n - 0xD800) * 0x400 + (m - 0xDC00) + 0x10000))
        (.char '\\' :: .char 'u' :: s) t

/-- **The rest of a string** that spells some characters, with its closing quote. -/
inductive Spells : List Char → Input → Input → Prop
  | close (t : Input) : Spells [] (.char '"' :: t) t
  | cons {c : Char} {cs : List Char} {s u t : Input} (first : Spelled c s u)
      (rest : Spells cs u t) : Spells (c :: cs) s t

theorem Quad.length_lt {n : Nat} {s t : Input} (quad : Quad n s t) : t.length < s.length := by
  obtain ⟨a, b, c, d, w, x, y, z, -, -, -, -, rfl, -⟩ := quad
  simp only [List.length_cons]
  omega

theorem Quad.fourHex {n : Nat} {s t : Input} (quad : Quad n s t) : fourHex s = .ok (n, t) := by
  obtain ⟨a, b, c, d, w, x, y, z, ha, hb, hc, hd, rfl, rfl⟩ := quad
  have enough : ¬ Glyph.bytesOf [.char a, .char b, .char c, .char d] < 4 := by
    have := a.utf8Size_pos
    have := b.utf8Size_pos
    have := c.utf8Size_pos
    have := d.utf8Size_pos
    simp only [Glyph.bytesOf, Glyph.size]
    omega
  rw [Json.fourHex]
  simp only [List.take_succ_cons, List.take_zero, enough, if_false, ha, hb, hc, hd]

theorem Spelled.length_lt {c : Char} {s t : Input} (spelled : Spelled c s t) :
    t.length < s.length := by
  cases spelled with
  | plain | named => simp only [List.length_cons]; omega
  | coded n s t code => exact Nat.lt_succ_of_lt (Nat.lt_succ_of_lt code.length_lt)
  | paired n m s u t high _ low =>
    have := high.length_lt
    have := low.length_lt
    simp only [List.length_cons] at *
    omega

theorem Spells.length_lt {cs : List Char} {s t : Input} (spells : Spells cs s t) :
    cs.length + t.length < s.length := by
  induction spells with
  | close t => simp
  | cons first rest ih =>
    have := first.length_lt
    rw [List.length_cons]
    omega

/-- A letter that names a character is none of those that have another meaning. -/
theorem ne_of_named {l c : Char} (names : named? l = some c) : l ≠ 'u' := by
  rintro rfl
  exact nomatch names

theorem Spelled.piece {c : Char} {s t : Input} (spelled : Spelled c s t) :
    piece s = .ok (.char c, t) := by
  cases spelled with
  | plain c t quote backslash printable =>
    unfold Json.piece
    split <;> simp_all
  | named l c t names =>
    have other := ne_of_named names
    simp only [Json.piece]
    split <;> simp_all
  | coded n s t code whole =>
    have single : ¬ (0xDC00 ≤ n ∧ n ≤ 0xDFFF) ∧ ¬ (0xD800 ≤ n ∧ n ≤ 0xDBFF) := by omega
    simp only [Json.piece, codePoint, code.fourHex, bind, Except.bind, single.1, single.2, if_false]
  | paired n m s u t high high_bounds low low_bounds =>
    have first : ¬ (0xDC00 ≤ n ∧ n ≤ 0xDFFF) := by omega
    simp only [Json.piece, codePoint, high.fourHex, low.fourHex, bind, Except.bind, first, if_false,
      high_bounds, low_bounds, and_self, if_true]

theorem Spells.pieces {cs : List Char} {s t : Input} (spells : Spells cs s t) {fuel : Nat}
    (enough : cs.length < fuel) (done : List (Option Char)) :
    pieces fuel done s = .ok (done.reverse ++ cs.map some, t) := by
  induction spells generalizing fuel done with
  | close t =>
    obtain ⟨fuel, rfl⟩ := Nat.exists_eq_add_one_of_ne_zero (Nat.ne_zero_of_lt enough)
    rw [List.map_nil, List.append_nil]
    rfl
  | cons first rest ih =>
    obtain ⟨fuel, rfl⟩ := Nat.exists_eq_add_one_of_ne_zero (Nat.ne_zero_of_lt enough)
    rw [Json.pieces, first.piece]
    refine (ih (Nat.lt_of_succ_lt_succ enough) _).trans ?_
    rw [List.reverse_cons, List.append_assoc]
    rfl

theorem joined?_map_some (cs : List Char) : joined? (cs.map some) = some (String.ofList cs) := by
  have all : (cs.map some).mapM id = some cs := by
    induction cs with
    | nil => rfl
    | cons c cs ih =>
      rw [List.map_cons, List.mapM_cons, ih]
      rfl
  rw [joined?, all, Option.map_some]

/-- **A string is read for the characters it spells.** -/
theorem Spells.stringBody {cs : List Char} {s t : Input} (spells : Spells cs s t) :
    stringBody s = .ok (String.ofList cs, t) := by
  have few := spells.length_lt
  rw [Json.stringBody, spells.pieces (by omega) []]
  simp only [bind, Except.bind, List.reverse_nil, List.nil_append, joined?_map_some]

/-! ## What a reader took was there -/

/-- A first step that succeeds, and what follows it. -/
theorem bind_eq_ok {x : Except Problem α} {f : α → Except Problem β} {b : β} :
    (x >>= f) = .ok b ↔ ∃ a, x = .ok a ∧ f a = .ok b := by
  rcases x with problem | a
  · exact ⟨nofun, fun ⟨_, failed, _⟩ => nomatch failed⟩
  · exact ⟨fun done => ⟨a, rfl, done⟩, fun ⟨_, eq, done⟩ => Except.ok.inj eq ▸ done⟩

theorem token_of_skipSpace {c : Char} {s t : Input} (front : skipSpace s = .char c :: t) :
    Token c s t := by
  rw [Token, ← front]
  exact blank_skipSpace s

theorem token_of_colon {s t : Input} (read : colon s = .ok t) : Token ':' s t := by
  unfold colon at read
  split at read
  · exact nomatch read
  · rename_i front
    exact Except.ok.inj read ▸ token_of_skipSpace front
  · exact nomatch read

theorem quad_of_fourHex {n : Nat} {s t : Input} (read : fourHex s = .ok (n, t)) : Quad n s t := by
  unfold fourHex at read
  split at read
  · exact nomatch read
  · split at read
    · rename_i a b c d rest _
      split at read
      · rename_i w x y z ha hb hc hd
        obtain ⟨rfl, rfl⟩ := Prod.mk.inj (Except.ok.inj read)
        exact ⟨a, b, c, d, w, x, y, z, ha, hb, hc, hd, rfl, rfl⟩
      · exact nomatch read
    · exact nomatch read

theorem spelled_of_codePoint {c : Char} {s t : Input} (read : codePoint s = .ok (c, t)) :
    Spelled c (.char '\\' :: .char 'u' :: s) t := by
  obtain ⟨⟨n, u⟩, first, read⟩ := bind_eq_ok.mp read
  have high := quad_of_fourHex first
  simp only at read
  split at read
  · exact nomatch read
  · rename_i notLow
    split at read
    · rename_i isHigh
      split at read
      · exact nomatch read
      · exact nomatch read
      · rename_i v
        obtain ⟨⟨m, w⟩, second, read⟩ := bind_eq_ok.mp read
        simp only at read
        split at read
        · rename_i isLow
          obtain ⟨rfl, rfl⟩ := Prod.mk.inj (Except.ok.inj read)
          exact .paired n m s v w high isHigh (quad_of_fourHex second) isLow
        · exact nomatch read
      · exact nomatch read
    · rename_i notHigh
      obtain ⟨rfl, rfl⟩ := Prod.mk.inj (Except.ok.inj read)
      exact .coded n s u high (by omega)

/-- What a part of a string can be. -/
theorem piece_cases {p : Piece} {s t : Input} (read : piece s = .ok (p, t)) :
    (p = .close ∧ s = .char '"' :: t) ∨ (∃ c, p = .char c ∧ Spelled c s t) ∨ p = .stray := by
  unfold piece at read
  split at read
  · exact nomatch read
  · obtain ⟨rfl, -⟩ := Prod.mk.inj (Except.ok.inj read)
    exact .inr (.inr rfl)
  · obtain ⟨rfl, rfl⟩ := Prod.mk.inj (Except.ok.inj read)
    exact .inl ⟨rfl, rfl⟩
  · split at read
    · exact nomatch read
    · obtain ⟨⟨c, u⟩, code, read⟩ := bind_eq_ok.mp read
      obtain ⟨rfl, rfl⟩ := Prod.mk.inj (Except.ok.inj read)
      exact .inr (.inl ⟨c, rfl, spelled_of_codePoint code⟩)
    · rename_i l rest _
      split at read
      · rename_i c names
        obtain ⟨rfl, rfl⟩ := Prod.mk.inj (Except.ok.inj read)
        exact .inr (.inl ⟨c, rfl, .named l c rest names⟩)
      · exact nomatch read
    · exact nomatch read
  · rename_i c rest quote backslash
    split at read
    · exact nomatch read
    · rename_i visible
      obtain ⟨rfl, rfl⟩ := Prod.mk.inj (Except.ok.inj read)
      exact .inr (.inl ⟨c, rfl, .plain c rest quote backslash (Nat.le_of_not_lt visible)⟩)

theorem spells_of_pieces {fuel : Nat} {done parts : List (Option Char)} {s t : Input}
    (read : pieces fuel done s = .ok (parts, t)) :
    ∃ more, parts = done.reverse ++ more ∧
      ∀ cs : List Char, more = cs.map some → Spells cs s t := by
  induction fuel generalizing done s with
  | zero => exact nomatch read
  | succ fuel ih =>
    obtain ⟨⟨p, u⟩, first, read⟩ := bind_eq_ok.mp read
    obtain ⟨rfl, rfl⟩ | ⟨c, rfl, spelled⟩ | rfl := piece_cases first
    · obtain ⟨rfl, rfl⟩ := Prod.mk.inj (Except.ok.inj read)
      refine ⟨[], (List.append_nil _).symm, fun cs none => ?_⟩
      obtain rfl := List.map_eq_nil_iff.mp none.symm
      exact .close u
    · obtain ⟨more, rfl, rest⟩ := ih read
      refine ⟨some c :: more, by rw [List.reverse_cons, List.append_assoc]; rfl, fun cs all => ?_⟩
      obtain ⟨d, ds, rfl, eq, others⟩ := List.map_eq_cons_iff.mp all.symm
      exact Option.some.inj eq ▸ .cons spelled (rest ds others.symm)
    · obtain ⟨more, rfl, -⟩ := ih read
      refine ⟨none :: more, by rw [List.reverse_cons, List.append_assoc]; rfl, fun cs all => ?_⟩
      obtain ⟨d, ds, rfl, eq, -⟩ := List.map_eq_cons_iff.mp all.symm
      exact nomatch eq

theorem joined?_eq_some {parts : List (Option Char)} {x : String}
    (joined : joined? parts = some x) : parts = x.toList.map some := by
  obtain ⟨cs, all, rfl⟩ := Option.map_eq_some_iff.mp joined
  rw [String.toList_ofList]
  clear joined
  induction parts generalizing cs with
  | nil => exact Option.some.inj all ▸ rfl
  | cons part parts ih =>
    simp only [List.mapM_cons, Option.bind_eq_bind, Option.bind_eq_some_iff, id, Option.pure_def,
      Option.some.injEq] at all
    obtain ⟨c, rfl, ds, others, rfl⟩ := all
    rw [List.map_cons, ← ih ds others]

/-- **A string is read exactly for the characters it spells.** -/
theorem stringBody_eq_ok_iff {x : String} {s t : Input} :
    stringBody s = .ok (x, t) ↔ Spells x.toList s t := by
  refine ⟨fun read => ?_, fun spells => ?_⟩
  · obtain ⟨⟨parts, u⟩, read, joined⟩ := bind_eq_ok.mp read
    obtain ⟨more, rfl, spells⟩ := spells_of_pieces read
    simp only at joined
    split at joined
    · rename_i y all
      obtain ⟨rfl, rfl⟩ := Prod.mk.inj (Except.ok.inj joined)
      exact spells _ (joined?_eq_some all)
    · exact nomatch joined
  · have read := spells.stringBody
    rwa [String.ofList_toList] at read

end Relaunch.Json
