import Mathlib.Data.List.Infix
import Mathlib.Data.List.Range
import ScreenForm.Form.Assembly
/-!
# The bracket structure of a description

The lines that open and close containers are the brackets of a description. A
`Row` is a line with its number and its role in this structure, and `rows` are
the rows of a text. Which role a line has is seen from its text (`rowOf_eq_iff`).
-/

namespace ScreenForm.Description

/-- What a line is in the structure of a description. A header, a footer and a comment stand beside
it. -/
inductive Role where
  | aside
  | leaf
  | opening
  | closing
  deriving Repr, DecidableEq

def Opcode.role : Opcode → Role
  | header | footer => .aside
  | opening _ => .opening
  | closing => .closing
  | _ => .leaf

def Line.role : Line → Role
  | comment => .aside
  | blank | rule .. => .leaf
  | command opcode _ => opcode.role

/-- The number of a line and its role. -/
abbrev Row := Nat × Role

/-- The row of a numbered line. A line that cannot be read stands beside the structure. -/
def rowOf (numbered : List Char × Nat) : Row :=
  (numbered.2, ((Line.parse numbered.2 numbered.1).toOption.map Line.role).getD .aside)

def rows (text : List Char) : List Row :=
  (Form.numberedLines text).map rowOf

/-- Whether a line describes a widget that has its place in the body. -/
def Role.isContent : Role → Bool
  | leaf | opening => true
  | aside | closing => false

/-- The numbers of the lines that describe widgets of the body. -/
def contentLines (rs : List Row) : List Nat :=
  (rs.filter (·.2.isContent)).map (·.1)

def opens (rs : List Row) : Nat := rs.countP (·.2 = .opening)

def closes (rs : List Row) : Nat := rs.countP (·.2 = .closing)

/-- No container is closed that is not open, and all are closed at the end. -/
structure Balanced (rs : List Row) : Prop where
  closes_le : ∀ p, p <+: rs → closes p ≤ opens p
  closes_eq : closes rs = opens rs

/-- The container that line `a` opens is closed by line `b`: what is between them is balanced. -/
def Matching (rs : List Row) (a b : Nat) : Prop :=
  ∃ before inner after, rs = before ++ (a, .opening) :: (inner ++ (b, .closing) :: after) ∧ Balanced inner

/-! ## Roles -/

/-- The text starts with one of these names. -/
def OpensWith (names : List String) (cs : List Char) : Prop := ∃ name ∈ names, name.toList <+: cs

/-- The names of the opcodes of this role. -/
def Role.names : Role → List String
  | aside => ["Hdr", "Ftr"]
  | leaf => ["Txt", "Btn", "Edt", "Chc", "Rdo", "Dvd"]
  | opening => ["Ple", "Col", "GFl", "Box"]
  | closing => ["End"]

theorem Role.length_of_mem_names {role : Role} {name : String} (h : name ∈ role.names) : name.toList.length = 3 := by
  revert name
  cases role <;> decide

theorem opensWith_iff {role : Role} {a b c : Char} {data : List Char} :
    OpensWith role.names (a :: b :: c :: data) ↔ String.ofList [a, b, c] ∈ role.names := by
  constructor
  · rintro ⟨name, hmem, hprefix⟩
    have htake := List.prefix_iff_eq_take.1 hprefix
    rw [role.length_of_mem_names hmem] at htake
    have hname : name = String.ofList [a, b, c] := by rw [← String.ofList_toList (s := name), htake]; rfl
    exact hname ▸ hmem
  · exact fun h => ⟨_, h, by simp⟩

theorem Opcode.role_of_ofName? {name : List Char} {opcode : Opcode} (h : ofName? name = some opcode) (role : Role) :
    opcode.role = role ↔ String.ofList name ∈ role.names := by
  obtain ⟨_, _, htable, -⟩ := List.lookup_eq_some_iff.1 h
  have hmem : (String.ofList name, opcode) ∈ table := htable ▸ List.mem_append_right _ List.mem_cons_self
  have hall : ∀ p ∈ table, p.2.role = role ↔ p.1 ∈ role.names := by cases role <;> decide
  exact hall _ hmem

theorem Opcode.not_mem_of_ofName? {name : List Char} (h : ofName? name = none) (role : Role) :
    String.ofList name ∉ role.names := by
  intro hmem
  have hall : ∀ name ∈ role.names, name ∈ table.map (·.1) := by cases role <;> decide
  obtain ⟨p, hp, hname⟩ := List.mem_map.1 (hall _ hmem)
  simpa [hname] using List.lookup_eq_none_iff.1 h p hp

theorem Opcode.not_three_of_ofName? {a b c : Char} {opcode : Opcode} (h : ofName? [a, b, c] = some opcode) : b ≠ a := by
  have hall : ∀ name ∈ opcode.role.names, name.toList[1]? ≠ name.toList[0]? := by cases opcode.role <;> decide
  simpa using hall _ ((role_of_ofName? h opcode.role).1 rfl)

/-- The role of a line by its text without margins. It is the one of the opcode that the text starts with. Beside that, a
blank line and three equal characters describe a widget, and a comment and what cannot be read describe none. -/
theorem rowOf_eq_iff (raw : List Char) (n : Nat) (role : Role) :
    (rowOf (raw, n)).2 = role ↔ OpensWith role.names (Text.trim raw) ∨ match role with
      | .leaf => Text.trim raw = [] ∨ ∃ c, c ≠ '#' ∧ [c, c, c] <+: Text.trim raw
      | .aside => ['#'] <+: Text.trim raw ∨ ∃ e, Line.parse n raw = .error e
      | .opening | .closing => False := by
  unfold rowOf Line.parse
  dsimp only
  generalize Text.trim raw = cs
  fun_cases Line.ofTrimmed n cs with
  | case1 => cases role <;> simp [OpensWith, Role.names, Line.role, Except.toOption]
  | case2 => cases role <;> simp [OpensWith, Role.names, Line.role, Except.toOption]
  | case3 a b c data hsharp _ opcode hopcode =>
    have hsharp : '#' ≠ a := fun h => hsharp h.symm
    have hthree : ∀ c', ¬ [c', c', c'] <+: a :: b :: c :: data := fun c' h => by
      simp only [List.cons_prefix_cons] at h
      exact Opcode.not_three_of_ofName? hopcode (h.2.1.symm.trans h.1)
    show opcode.role = role ↔ _
    rw [Opcode.role_of_ofName? hopcode, opensWith_iff]
    cases role <;> simp [hthree, hsharp]
  | case4 a b c data hsharp _ hopcode hequal =>
    have hsharp : '#' ≠ a := fun h => hsharp h.symm
    have hnone : ¬ OpensWith role.names (a :: b :: c :: data) :=
      mt opensWith_iff.1 (Opcode.not_mem_of_ofName? hopcode role)
    simp only [Bool.and_eq_true, decide_eq_true_eq] at hequal
    obtain ⟨rfl, rfl⟩ := hequal
    cases role <;> simp [Line.role, Except.toOption, hnone, hsharp, hsharp.symm]
  | case5 a b c data hsharp hopcode hequal =>
    have hnone : ¬ OpensWith role.names (a :: b :: c :: data) :=
      mt opensWith_iff.1 (Opcode.not_mem_of_ofName? hopcode role)
    have hthree : ∀ c', ¬ [c', c', c'] <+: a :: b :: c :: data := fun c' h => by
      simp only [List.cons_prefix_cons] at h
      obtain ⟨rfl, rfl, rfl, -⟩ := h
      simp at hequal
    cases role <;> simp [Except.toOption, hnone, hthree]
  | case6 _ hblank hsharp hshort =>
    -- No name and no three characters fit into the line.
    have hthree : ∀ l : List Char, l.length = 3 → ¬ l <+: cs := by
      rintro l hl ⟨rest, rfl⟩
      obtain ⟨a, b, c, rfl⟩ := List.length_eq_three.1 hl
      exact hshort a b c rest rfl
    have hnone : ¬ OpensWith role.names cs := fun ⟨name, hmem, h⟩ => hthree _ (role.length_of_mem_names hmem) h
    have hequal : ∀ c : Char, ¬ [c, c, c] <+: cs := fun c => hthree _ rfl
    have hblank : cs ≠ [] := hblank
    cases role <;> simp [Except.toOption, hnone, hequal, hblank]

/-! ## Rows -/

theorem rowOf_of_parse {raw : List Char} {n : Nat} {l : Line} (h : Line.parse n raw = .ok l) :
    rowOf (raw, n) = (n, l.role) := by
  simp [rowOf, h, Except.toOption]

theorem map_fst_rows (text : List Char) : (rows text).map (·.1) = List.range' 1 (rows text).length := by
  have h : (rows text).map (·.1) = (Form.numberedLines text).map (·.2) := by
    simp [rows, rowOf, Function.comp_def]
  rw [h, Form.numberedLines, List.zipIdx_map_snd]
  simp [rows, Form.numberedLines]

/-- The lines of a text are numbered in their order. -/
theorem pairwise_rows (text : List Char) : (rows text).Pairwise (·.1 < ·.1) := by
  have h : ((rows text).map (·.1)).Pairwise (· < ·) := by
    rw [map_fst_rows]
    exact List.pairwise_lt_range' ..
  exact List.pairwise_map.1 h

theorem pos_of_mem_rows {text : List Char} {r : Row} (h : r ∈ rows text) : 0 < r.1 := by
  have hm : r.1 ∈ (rows text).map (·.1) := List.mem_map_of_mem h
  rw [map_fst_rows, List.mem_range'_1] at hm
  omega

@[simp] theorem contentLines_append (rs rs' : List Row) :
    contentLines (rs ++ rs') = contentLines rs ++ contentLines rs' := by
  simp [contentLines]

theorem contentLines_cons (r : Row) (rs : List Row) :
    contentLines (r :: rs) = if r.2.isContent then r.1 :: contentLines rs else contentLines rs := by
  simp only [contentLines, List.filter_cons]
  split <;> rfl

theorem mem_contentLines {rs : List Row} {n : Nat} : n ∈ contentLines rs ↔ ∃ role, role.isContent ∧ (n, role) ∈ rs := by
  simp only [contentLines, List.mem_map, List.mem_filter, Prod.exists]
  exact ⟨fun ⟨_, role, ⟨h, hc⟩, hn⟩ => ⟨role, hc, hn ▸ h⟩, fun ⟨role, hc, h⟩ => ⟨n, role, ⟨h, hc⟩, rfl⟩⟩

theorem pairwise_contentLines {rs : List Row} (h : rs.Pairwise (·.1 < ·.1)) : (contentLines rs).Pairwise (· < ·) :=
  List.pairwise_map.2 (h.sublist List.filter_sublist)

/-- The lines between two rows have the numbers between theirs. -/
theorem mem_contentLines_between {rs before inner after : List Row} {a b : Nat} {ra rb : Role}
    (h : rs.Pairwise (·.1 < ·.1)) (hr : rs = before ++ (a, ra) :: (inner ++ (b, rb) :: after)) {n : Nat} :
    n ∈ contentLines inner ↔ n ∈ contentLines rs ∧ a < n ∧ n < b := by
  subst hr
  obtain ⟨-, hrest, hbefore⟩ := List.pairwise_append.1 h
  obtain ⟨ha, hrest⟩ := List.pairwise_cons.1 hrest
  obtain ⟨-, hafter, hinner⟩ := List.pairwise_append.1 hrest
  obtain ⟨hb, -⟩ := List.pairwise_cons.1 hafter
  simp only [mem_contentLines]
  constructor
  · rintro ⟨role, hc, hn⟩
    exact ⟨⟨role, hc, by simp [hn]⟩, ha (n, role) (by simp [hn]), hinner _ hn (b, rb) (by simp)⟩
  · rintro ⟨⟨role, hc, hn⟩, han, hnb⟩
    refine ⟨role, hc, ?_⟩
    simp only [List.mem_append, List.mem_cons, Prod.mk.injEq] at hn
    rcases hn with hn | ⟨rfl, -⟩ | hn | ⟨rfl, -⟩ | hn
    · have := hbefore _ hn (a, ra) (by simp)
      exact absurd this (Nat.not_lt_of_lt han)
    · exact absurd han (Nat.lt_irrefl _)
    · exact hn
    · exact absurd hnb (Nat.lt_irrefl _)
    · exact absurd (hb _ hn) (Nat.not_lt_of_lt hnb)

/-! ## Balance -/

@[simp] theorem opens_append (rs rs' : List Row) : opens (rs ++ rs') = opens rs + opens rs' := by simp [opens]

@[simp] theorem closes_append (rs rs' : List Row) : closes (rs ++ rs') = closes rs + closes rs' := by simp [closes]

theorem opens_cons (n : Nat) (role : Role) (rs : List Row) :
    opens ((n, role) :: rs) = opens rs + if role = .opening then 1 else 0 := by
  simp [opens, List.countP_cons]

theorem closes_cons (n : Nat) (role : Role) (rs : List Row) :
    closes ((n, role) :: rs) = closes rs + if role = .closing then 1 else 0 := by
  simp [closes, List.countP_cons]

@[simp] theorem opens_nil : opens [] = 0 := rfl

@[simp] theorem closes_nil : closes [] = 0 := rfl

theorem prefix_append_cases {rs rs' p : List Row} (h : p <+: rs ++ rs') :
    p <+: rs ∨ ∃ q, q <+: rs' ∧ p = rs ++ q := by
  rcases List.prefix_or_prefix_of_prefix h (List.prefix_append rs rs') with h' | ⟨q, rfl⟩
  · exact .inl h'
  · exact .inr ⟨q, (List.prefix_append_right_inj rs).1 h, rfl⟩

namespace Balanced

theorem nil : Balanced [] where
  closes_le p hp := by simp [List.prefix_nil.1 hp]
  closes_eq := rfl

theorem append {rs rs' : List Row} (h : Balanced rs) (h' : Balanced rs') : Balanced (rs ++ rs') where
  closes_le p hp := by
    rcases prefix_append_cases hp with hp | ⟨q, hq, rfl⟩
    · exact h.closes_le p hp
    · have := h.closes_eq
      have := h'.closes_le q hq
      simp only [closes_append, opens_append]
      omega
  closes_eq := by simp [h.closes_eq, h'.closes_eq]

theorem cons {n : Nat} {role : Role} {rs : List Row} (ho : role ≠ .opening) (hc : role ≠ .closing)
    (h : Balanced rs) : Balanced ((n, role) :: rs) where
  closes_le p hp := by
    rcases List.prefix_cons_iff.1 hp with rfl | ⟨q, rfl, hq⟩
    · simp
    · simpa [opens_cons, closes_cons, ho, hc] using h.closes_le q hq
  closes_eq := by simpa [opens_cons, closes_cons, ho, hc] using h.closes_eq

/-- A container with a balanced content is balanced. -/
theorem group {a b : Nat} {inner : List Row} (h : Balanced inner) :
    Balanced ((a, .opening) :: (inner ++ [(b, .closing)])) where
  closes_le p hp := by
    rcases List.prefix_cons_iff.1 hp with rfl | ⟨q, rfl, hq⟩
    · simp
    -- A prefix ends in the content, or with the closing line.
    rcases prefix_append_cases hq with hi | ⟨q', hq', rfl⟩
    · have := h.closes_le q hi
      simp only [opens_cons, closes_cons, reduceCtorEq, if_true, if_false]
      omega
    · have := h.closes_eq
      rcases List.prefix_cons_iff.1 hq' with rfl | ⟨r, rfl, hr⟩
      · simp [opens_cons, closes_cons, this]
      · simp [List.prefix_nil.1 hr, opens_cons, closes_cons, this]
  closes_eq := by simp [opens_cons, closes_cons, h.closes_eq]

/-- What comes before a closing line in a balanced text is not balanced itself. -/
theorem not_prefix_closing {rs inner : List Row} {b : Nat} (h : Balanced rs) (hi : Balanced inner)
    (hp : inner ++ [(b, .closing)] <+: rs) : False := by
  have hle := h.closes_le _ hp
  have heq := hi.closes_eq
  simp only [closes_append, opens_append, closes_cons, opens_cons, closes_nil, opens_nil, reduceCtorEq, if_true,
    if_false] at hle
  omega

/-- An opening line of a balanced text has more closing than opening lines after it. -/
theorem opens_after_opening {before after : List Row} {a : Nat} (h : Balanced (before ++ (a, .opening) :: after)) :
    opens after < closes after := by
  have heq := h.closes_eq
  have hle := h.closes_le before (List.prefix_append ..)
  simp only [closes_append, opens_append, closes_cons, opens_cons, reduceCtorEq, if_true, if_false] at heq
  omega

/-- The closing line of a container is the first one before which all is balanced. -/
theorem eq_of_closing {inner inner' rest rest' : List Row} {b b' : Nat} (h : Balanced inner) (h' : Balanced inner')
    (he : inner ++ (b, .closing) :: rest = inner' ++ (b', .closing) :: rest') : inner = inner' := by
  -- If one were longer, the other with its closing line would be a prefix of it.
  rcases List.append_eq_append_iff.1 he with ⟨_ | ⟨r, l⟩, rfl, hl⟩ | ⟨_ | ⟨r, l⟩, rfl, hl⟩
  · simp
  · obtain ⟨rfl, -⟩ := List.cons.inj hl
    exact (h'.not_prefix_closing h (b := b) ⟨l, by simp⟩).elim
  · simp
  · obtain ⟨rfl, -⟩ := List.cons.inj hl
    exact (h.not_prefix_closing h' (b := b') ⟨l, by simp⟩).elim

/-- A container that starts behind an opening line ends before its closing line, or starts behind it. -/
theorem opening_cases {inner' rest before inner after : List Row} {a b b' : Nat} (h : Balanced inner')
    (hi : Balanced inner)
    (he : inner' ++ (b', .closing) :: rest = before ++ (a, .opening) :: (inner ++ (b, .closing) :: after)) :
    (∃ after', inner' = before ++ (a, .opening) :: (inner ++ (b, .closing) :: after')) ∨
      ∃ before', rest = before' ++ (a, .opening) :: (inner ++ (b, .closing) :: after) := by
  rcases List.append_eq_append_iff.1 he with ⟨_ | ⟨r, l⟩, rfl, hl⟩ | ⟨_ | ⟨r, l⟩, rfl, hl⟩
  · simp at hl
  · obtain ⟨-, rfl⟩ := List.cons.inj hl
    exact .inr ⟨l, rfl⟩
  · simp at hl
  · rw [List.cons_append] at hl
    obtain ⟨rfl, htail⟩ := List.cons.inj hl
    left
    have hlt := h.opens_after_opening
    rcases List.append_eq_append_iff.1 htail with ⟨_ | ⟨r, q⟩, rfl, hq⟩ | ⟨q, rfl, -⟩
    · have := hi.closes_eq
      rw [List.append_nil] at hlt
      omega
    · obtain ⟨rfl, -⟩ := List.cons.inj hq
      exact ⟨q, rfl⟩
    · -- The rest of the outer content would be a part of the balanced inner one.
      have := hi.closes_le l (List.prefix_append ..)
      omega

end Balanced

namespace Matching

variable {rs : List Row} {a b : Nat}

theorem prepend (h : Matching rs a b) (xs : List Row) : Matching (xs ++ rs) a b := by
  obtain ⟨before, inner, after, rfl, hi⟩ := h
  exact ⟨xs ++ before, inner, after, by simp, hi⟩

theorem append (h : Matching rs a b) (ys : List Row) : Matching (rs ++ ys) a b := by
  obtain ⟨before, inner, after, rfl, hi⟩ := h
  exact ⟨before, inner, after ++ ys, by simp, hi⟩

theorem cons (h : Matching rs a b) {r : Row} : Matching (r :: rs) a b := h.prepend [r]

end Matching

end ScreenForm.Description
