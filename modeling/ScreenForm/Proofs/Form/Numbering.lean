import Mathlib.Data.List.NodupEquivFin
import ScreenForm.Proofs.Description.TemplateLine
import ScreenForm.Proofs.Form.Marked
import ScreenForm.Proofs.Form.Reline
import ScreenForm.Proofs.Form.Rule
/-!
# The numbers of lines

The lines of a description are numbered when the strings have been written. A line without keys is then as many
lines further down as the strings above it have line feeds (`Form.parse_numbers_lines`). No two widgets come from
one line (`Form.parse_countLine_le_one`).
-/

namespace ScreenForm

open Description Template

/-! ## Widgets that come from a line -/

/-- How many widgets come from line `m`. -/
def Tree.countLine (t : Tree) (m : Nat) : Nat :=
  t.nodes.countP (·.about.line = m)

/-- How many widgets come from line `m`, with those of the containers that are still open. -/
def Assembly.countLine (a : Assembly) (m : Nat) : Nat :=
  a.tree.countLine m + a.opened.countP (·.line = m)

namespace Tree

variable {t t' : Tree} {m id outer i j : Nat}

theorem countLine_add (w : Widget) (about : Meta) :
    (t.add w about).countLine m = t.countLine m + if about.line = m then 1 else 0 := by
  simp [countLine, add, Array.countP_push]

theorem countLine_of_fixed (h : t'.fixed = t.fixed) : t'.countLine m = t.countLine m := by
  have hcount (t : Tree) : t.fixed.countLine m = t.countLine m := by
    rw [countLine, fixed, Array.countP_map]
    rfl
  rw [← hcount, h, hcount]

/-- A wrapper comes from no line. -/
theorem Wrapped.countLine_eq (h : t.Wrapped id t' outer) (hm : m ≠ 0) : t'.countLine m = t.countLine m := by
  cases h with
  | bare => rfl
  | styled => rw [countLine_add, if_neg hm.symm, Nat.add_zero]

theorem lt_size_of_line (hm : m ≠ 0) (hi : (t.about i).line = m) : i < t.size := by
  by_contra hsize
  rw [about, node_of_size_le (Nat.le_of_not_lt hsize)] at hi
  exact hm hi.symm

/-- Two widgets that come from one line are counted twice. -/
theorem eq_of_countLine_le_one (h : t.countLine m ≤ 1) (hm : m ≠ 0) (hi : (t.about i).line = m)
    (hj : (t.about j).line = m) : i = j := by
  have htwice : ∀ {i j}, (t.about i).line = m → (t.about j).line = m → ¬ i < j := by
    intro i j hi hj hlt
    have hj' := lt_size_of_line hm hj
    have hi' := Nat.lt_trans hlt hj'
    have hget : ∀ {k} (hk : k < t.size), (t.about k).line = m →
        m = (t.nodes.toList.map (·.about.line)).get ⟨k, by simpa [size] using hk⟩ := by
      rintro k hk rfl
      rw [size] at hk
      simp [about, node, hk]
    have hcount := List.duplicate_iff_two_le_count.1
      (List.duplicate_iff_exists_distinct_get.2 ⟨_, _, hlt, hget hi' hi, hget hj' hj⟩)
    rw [List.count_eq_countP, List.countP_map] at hcount
    rw [countLine, ← Array.countP_toList] at h
    exact absurd (Nat.le_trans hcount h) (by decide)
  exact Nat.le_antisymm (Nat.le_of_not_lt (htwice hj hi)) (Nat.le_of_not_lt (htwice hi hj))

end Tree

namespace Assembly

variable {a a' : Assembly} {w : Widget} {m n id : Nat} {role : Role}

theorem Added.countLine_eq (h : a.Added w n a' id) (hm : m ≠ 0) :
    a'.countLine m = a.countLine m + if n = m then 1 else 0 := by
  obtain ⟨about, rfl, hw⟩ := h.tree
  rw [countLine, countLine, hw.countLine_eq hm, Tree.countLine_add, h.opened]
  omega

/-- A line adds at most one widget that comes from it, or opens a container for it. -/
theorem Grown.countLine_le (h : a.Grown n role a') (hm : m ≠ 0) :
    a'.countLine m ≤ a.countLine m + if n = m then 1 else 0 := by
  cases h with
  | comment => exact Nat.le_add_right ..
  | header _ _ added => exact Nat.le_of_eq (added.countLine_eq hm)
  | footer _ _ added => exact Nat.le_of_eq (added.countLine_eq hm)
  | leaf _ added agrees =>
    refine Nat.le_of_eq (Eq.trans ?_ (added.countLine_eq hm))
    rw [countLine, countLine, Tree.countLine_of_fixed agrees.fixed]
  | opened o line =>
    simp only [countLine, List.countP_cons, line, decide_eq_true_eq]
    omega
  | closed opened added =>
    -- The container comes from the line that opened it, and is not open any more.
    have hadded := added.countLine_eq hm
    simp only [countLine, opened, List.countP_cons, decide_eq_true_eq] at hadded ⊢
    omega

/-- What is wrong with a line is wrong with it under every number. -/
theorem exists_addLine_eq_error {raw : List Char} {e : FormError} (h : a.addLine (raw, m) = .error e) (n : Nat) :
    ∃ e', a.addLine (raw, n) = .error e' := by
  have hm := a.addLine_reline (f := fun _ => 0) rfl (raw, m)
  have hn := a.addLine_reline (f := fun _ => 0) rfl (raw, n)
  rw [h] at hm
  dsimp only at hm hn
  generalize (a.reline fun _ => 0).addLine (raw, 0) = relined at hm hn
  cases hm
  cases hl : a.addLine (raw, n) with
  | ok b =>
    rw [hl] at hn
    cases hn
  | error e' => exact ⟨e', rfl⟩

end Assembly

namespace Form

variable {description : String} {palette : Palette} {strings : StringTable} {f : Form} {m n : Nat}

/-- No two widgets come from one line. -/
theorem parse_countLine_le_one (h : parse description palette strings = .ok f) (hm : m ≠ 0) : f.tree.countLine m ≤ 1 := by
  obtain ⟨text, a, -, ha, hf⟩ := parse_ok h
  have hfinished := Assembly.finish_finished hf
  have hstep : ∀ (a : Assembly) (rs : List Row) n role a', a.countLine m ≤ rs.countP (·.1 = m) → a.Grown n role a' →
      a'.countLine m ≤ (rs ++ [(n, role)]).countP (·.1 = m) := by
    intro a rs n role a' hle hg
    have hgrown := hg.countLine_le hm
    simp only [List.countP_append, List.countP_cons, List.countP_nil, decide_eq_true_eq, Nat.zero_add]
    omega
  have hinitial : Assembly.countLine { palette, strings } m ≤ ([] : List Row).countP (·.1 = m) := Nat.zero_le _
  have hrows : a.countLine m ≤ (rows text).countP (·.1 = m) :=
    Assembly.foldlM_ok (P := fun a rs => a.countLine m ≤ rs.countP (·.1 = m)) hstep hinitial ha
  have honce : (rows text).countP (·.1 = m) ≤ 1 := by
    have hcount : ((rows text).map (·.1)).count m ≤ 1 := by
      rw [map_fst_rows]
      exact List.nodup_iff_count_le_one.1 List.nodup_range' m
    rwa [List.count_eq_countP, List.countP_map] at hcount
  rw [hfinished.tree.countLine_eq hm, Tree.countLine_add, if_neg hm.symm, Nat.add_zero]
  exact Nat.le_trans (Nat.le_add_right ..) (Nat.le_trans hrows honce)

/-- Each line that describes a widget has one in the form, and only one. -/
theorem parse_bears_once (h : parse description palette strings = .ok f) :
    ∃ text, strings.substituteChars description.toList = .ok text ∧
      ∀ l ∈ numberedLines text, ∃ read, Line.parse l.2 l.1 = .ok read ∧
        (read.describes → ∃ id, f.tree.Bears l.2 read id ∧ ∀ other, (f.tree.about other).line = l.2 ↔ other = id) := by
  obtain ⟨text, ht, hbears⟩ := parse_bears h
  refine ⟨text, ht, fun l hl => ?_⟩
  obtain ⟨read, hread, hbears⟩ := hbears l hl
  refine ⟨read, hread, fun hdescribes => ?_⟩
  obtain ⟨id, hid⟩ := hbears.resolve_left (by simp [hdescribes])
  have hpos : l.2 ≠ 0 := Nat.ne_of_gt (List.le_snd_of_mem_zipIdx hl)
  refine ⟨id, hid, fun other => ⟨fun hother => ?_, fun hother => hother ▸ hid.number⟩⟩
  exact Tree.eq_of_countLine_le_one (parse_countLine_le_one h hpos) hpos hother hid.number

/-! ## Lines without keys -/

variable {before after line : List Char} {ps pieces : List Piece}

/-- The line stands behind as many lines as the text before it has line feeds. -/
theorem Surrounds.numberedLines_eq (h : Surrounds before after) (hline : '\n' ∉ line) :
    ∃ below, numberedLines (before ++ (line ++ after)) =
      (numberedLines before).dropLast ++ (line, before.count '\n' + 1) :: below := by
  obtain ⟨above, below, hbefore, hsplit⟩ := h.splitOn
  have hlength : above.length = before.count '\n' := by
    have hlength := Text.length_splitOn (· = '\n') before
    rw [hbefore, List.length_append, List.length_singleton] at hlength
    exact Nat.succ.inj hlength
  refine ⟨below.zipIdx (before.count '\n' + 2), ?_⟩
  rw [numberedLines, numberedLines, hbefore, hsplit _ hline, List.zipIdx_append, List.zipIdx_append, List.zipIdx_cons,
    List.zipIdx_cons, List.zipIdx_nil, List.dropLast_concat, hlength, Nat.add_comm 1]

/-- A line without dollar signs stays as it is, between what is written before and after it. -/
theorem Surrounds.written (h : Surrounds before after) (hps : Reads before ps) (hdollar : '$' ∉ line)
    (hreads : Reads (before ++ (line ++ after)) pieces) (hkeys : ∀ name, .key name ∈ pieces → '\n' ∉ name)
    {text : List Char} (htext : strings.substituteChars (before ++ (line ++ after)) = .ok text) :
    ∃ before' after', strings.substituteChars before = .ok before' ∧ Surrounds before' after' ∧
      text = before' ++ (line ++ after') ∧ before'.count '\n' = before.count '\n' + strings.feeds ps := by
  have hcases : Complete ps ∨ before.getLast? = some '\n' ∧ Unclosed before ps := by
    obtain rfl | hlast := h.1
    · cases hps
      exact .inl (complete_plain [])
    · exact (hps.complete_or_unclosed (by simp [hlast])).imp_right (And.intro hlast)
  rcases hcases with hcomplete | ⟨hlast, hunclosed⟩
  · obtain ⟨rs, hrs⟩ := exists_reads (line ++ after)
    obtain rfl := hreads.unique (hps.append hcomplete hrs)
    rw [substituteChars_between hps hcomplete hdollar] at htext
    obtain ⟨before', hbefore, htext⟩ := Except.bind_eq_ok.1 htext
    obtain ⟨after', hafter, htext⟩ := Except.bind_eq_ok.1 htext
    cases htext
    refine ⟨before', after', hbefore, h.substituteChars hps hcomplete hbefore hafter, rfl, ?_⟩
    rw [StringTable.substituteChars_of_reads hps] at hbefore
    exact StringTable.count_values hps (fun name hname => hkeys name (List.mem_append_left _ hname)) hbefore
  · -- Everything behind the open key is written as it is.
    obtain ⟨qs, rest, rfl, hrest, rfl⟩ := hunclosed.append hlast hreads hkeys
    rw [StringTable.substituteChars_of_reads hreads, StringTable.values_append] at htext
    obtain ⟨first, hfirst, htext⟩ := Except.bind_eq_ok.1 htext
    obtain ⟨last, hvalue, htext⟩ := Except.bind_eq_ok.1 htext
    cases hvalue
    cases htext
    have hbefore : strings.values (qs ++ [.unfinished rest]) = .ok (first ++ '$' :: '\x7b' :: rest) := by
      rw [StringTable.values_append, hfirst]
      simp [StringTable.values, StringTable.value, bind, Except.bind, pure, Except.pure]
    refine ⟨first ++ '$' :: '\x7b' :: rest, after, ?_, ⟨.inr ?_, h.2⟩, by simp, ?_⟩
    · rw [StringTable.substituteChars_of_reads hps, hbefore]
    · simp [List.getLast?_append, List.getLast?_cons, hrest]
    · refine StringTable.count_values hps (fun name hname => hkeys name ?_) hbefore
      simpa using hname

/-- The line is numbered with the line feeds of the strings above it. -/
theorem Surrounds.numberedLines_written (h : Surrounds before after) (hps : Reads before ps) (hfeed : '\n' ∉ line)
    (hdollar : '$' ∉ line) (hreads : Reads (before ++ (line ++ after)) pieces)
    (hkeys : ∀ name, .key name ∈ pieces → '\n' ∉ name) {text : List Char}
    (htext : strings.substituteChars (before ++ (line ++ after)) = .ok text) :
    ∃ written below, strings.substituteChars before = .ok written ∧ numberedLines text =
      (numberedLines written).dropLast ++ (line, before.count '\n' + 1 + strings.feeds ps) :: below := by
  obtain ⟨written, after', hwritten, hroom, rfl, hcount⟩ := h.written hps hdollar hreads hkeys htext
  obtain ⟨below, hlines⟩ := hroom.numberedLines_eq hfeed
  rw [hcount, Nat.add_right_comm] at hlines
  exact ⟨written, below, hwritten, hlines⟩

/-! ## Where a description fails -/

/-- The lines above the line can be added, and the line itself cannot. -/
def StopsAt (palette : Palette) (strings : StringTable) (before line : List Char) : Prop :=
  ∃ written a m e, strings.substituteChars before = .ok written ∧
    (numberedLines written).dropLast.foldlM Assembly.addLine { palette, strings } = .ok a ∧
    a.addLine (line, m) = .error e

theorem parse_of_error {text : List Char} (ht : strings.substituteChars description.toList = .ok text)
    {above below : List (List Char × Nat)} {l : List Char × Nat} (hlines : numberedLines text = above ++ l :: below)
    {a : Assembly} (ha : above.foldlM Assembly.addLine { palette, strings } = .ok a) {e : FormError}
    (he : a.addLine l = .error e) : parse description palette strings = .error e := by
  have hfold : (numberedLines text).foldlM Assembly.addLine { palette, strings } = .error e := by
    rw [hlines, List.foldlM_append, ha]
    simp only [bind, Except.bind, List.foldlM_cons, he]
  rw [parse, ht]
  simp only [liftError, bind, Except.bind, hfold]

/-- A description that stops at a line fails there. If the line closes no container, the error is at its number. -/
theorem StopsAt.parse_eq_error {text written : List Char} {below : List (List Char × Nat)}
    (h : StopsAt palette strings before line) (hbefore : strings.substituteChars before = .ok written)
    (ht : strings.substituteChars description.toList = .ok text)
    (hlines : numberedLines text = (numberedLines written).dropLast ++ (line, n) :: below)
    (hclosing : ∀ data, Line.parse n line ≠ .ok (.command .closing data)) :
    ∃ e, parse description palette strings = .error e ∧ e.AtLine n := by
  obtain ⟨written', a, m, _, hsame, ha, hstop⟩ := h
  cases hbefore.symm.trans hsame
  obtain ⟨e, he⟩ := a.exists_addLine_eq_error hstop n
  exact ⟨e, parse_of_error ht hlines ha he, a.failsOnly_addLine_of_ne n hclosing e he⟩

/-- A line without keys has the number under which it stands when the strings are written: their line feeds above it
are counted too. The widget that it describes, and no other one, comes from the line of that number, and if the
description stops at the line, what is wrong with it is an error of that number. -/
theorem parse_numbers_lines (htext : description.toList = before ++ (line ++ after)) (hroom : Surrounds before after)
    (hfeed : '\n' ∉ line) (hdollar : '$' ∉ line) (hreads : Reads description.toList pieces)
    (hkeys : ∀ name, .key name ∈ pieces → '\n' ∉ name) :
    (line, before.count '\n' + 1) ∈ numberedLines description.toList ∧
      ∃ ps, Reads before ps ∧ ∀ (palette : Palette) (strings : StringTable),
        ∃ n, n = before.count '\n' + 1 + strings.feeds ps ∧
          (n = before.count '\n' + 1 ↔ ∀ name text, .key name ∈ ps → strings.get (String.ofList name) = .ok text →
            '\n' ∉ text.toList) ∧
          (∀ f, parse description palette strings = .ok f → ∃ read, Line.parse n line = .ok read ∧
            (read.describes → ∃ id, f.tree.Bears n read id ∧ ∀ other, (f.tree.about other).line = n ↔ other = id)) ∧
          (StopsAt palette strings before line → (∀ data, Line.parse n line ≠ .ok (.command .closing data)) →
            ∃ e, parse description palette strings = .error e ∧ ∀ cause, e = .syntaxError cause → cause.line? = some n) := by
  obtain ⟨ps, hps⟩ := exists_reads before
  rw [htext] at hreads
  refine ⟨?mem, ps, hps, fun palette strings => ⟨_, rfl, ?same, fun f hf => ?made, fun hstop hclosing => ?fails⟩⟩
  case mem =>
    obtain ⟨below, hlines⟩ := hroom.numberedLines_eq hfeed
    rw [htext, hlines]
    exact List.mem_append_right _ List.mem_cons_self
  case same => rw [Nat.add_eq_left, StringTable.feeds_eq_zero_iff]
  case made =>
    obtain ⟨text, ht, hbears⟩ := parse_bears_once hf
    obtain ⟨_, below, -, hlines⟩ := hroom.numberedLines_written hps hfeed hdollar hreads hkeys (htext ▸ ht)
    exact hbears (line, _) (hlines ▸ List.mem_append_right _ List.mem_cons_self)
  case fails =>
    cases ht : strings.substituteChars description.toList with
    | error cause =>
      refine ⟨.runtimeError cause, ?_, nofun⟩
      rw [parse, ht]
      rfl
    | ok text =>
      obtain ⟨_, below, hbefore, hlines⟩ := hroom.numberedLines_written hps hfeed hdollar hreads hkeys (htext ▸ ht)
      obtain ⟨e, he, hat⟩ := hstop.parse_eq_error hbefore ht hlines hclosing
      exact ⟨e, he, fun cause hcause => (hat cause hcause).1⟩

/-- A key on a line of its own, before a line without one. -/
theorem reads_greeting (tail : List Char) (h : '$' ∉ tail) :
    Reads ("Txt $\x7bA\x7d".toList ++ tail) ("Txt ".toList.map .plain ++ .key ['A'] :: tail.map .plain) := by
  have htext : "Txt $\x7bA\x7d".toList ++ tail = "Txt ".toList ++ '$' :: '\x7b' :: (['A'] ++ '\x7d' :: tail) := rfl
  rw [htext]
  exact (reads_plain (by decide)).append (complete_plain _) (.key (by decide) (reads_plain h))

/-- A string of two lines, the second one empty, moves the line below its key from 2 to 3. -/
theorem parse_numbers_lines_shifted :
    let strings : StringTable := ⟨[("A", "Hi\n")]⟩
    (∃ f id, parse "Txt $\x7bA\x7d\nBtn [OK]" {} strings = .ok f ∧ f.tree.Bears 3 (.command .button "[OK]".toList) id ∧
      ∀ other, (f.tree.about other).line = 3 ↔ other = id) ∧
    ∃ e, parse "Txt $\x7bA\x7d\nBtn OK" {} strings = .error (.syntaxError e) ∧
      StopsAt {} strings "Txt $\x7bA\x7d\n".toList "Btn OK".toList ∧ e.line? = some 3 := by
  intro strings
  have hkeys : ∀ tail name, Piece.key name ∈ "Txt ".toList.map .plain ++ .key ['A'] :: List.map .plain tail → '\n' ∉ name := by
    intro tail name hname
    simp at hname
    subst hname
    decide
  have hroom : Surrounds "Txt $\x7bA\x7d\n".toList [] := ⟨.inr rfl, .inl rfl⟩
  -- Above the line stands the one key, whose string has one line feed.
  have hfeeds : ∀ {ps}, Reads "Txt $\x7bA\x7d\n".toList ps → strings.feeds ps = 1 := by
    intro ps hps
    obtain rfl := hps.unique (reads_greeting ['\n'] (by decide))
    decide
  constructor
  · let f := ((parse "Txt $\x7bA\x7d\nBtn [OK]" {} strings).toOption).getD default
    have hf : parse "Txt $\x7bA\x7d\nBtn [OK]" {} strings = .ok f := by decide +kernel
    have htext : "Txt $\x7bA\x7d\nBtn [OK]".toList = "Txt $\x7bA\x7d\n".toList ++ ("Btn [OK]".toList ++ []) := rfl
    obtain ⟨-, ps, hps, hlines⟩ := parse_numbers_lines htext hroom (by decide) (by decide)
      (reads_greeting "\nBtn [OK]".toList (by decide)) (hkeys _)
    obtain ⟨n, rfl, -, hmade, -⟩ := hlines {} strings
    rw [hfeeds hps] at hmade
    obtain ⟨read, hread, hbears⟩ := hmade f hf
    obtain rfl : read = .command .button "[OK]".toList := by
      have hread' : Line.parse 3 "Btn [OK]".toList = .ok (.command .button "[OK]".toList) := by decide
      exact Except.ok.inj (hread.symm.trans hread')
    obtain ⟨id, hid, honly⟩ := hbears rfl
    exact ⟨f, id, hf, hid, honly⟩
  · have he : parse "Txt $\x7bA\x7d\nBtn OK" {} strings = .error (.syntaxError (.malformedButton "OK" 3)) := by
      decide +kernel
    have hstop : StopsAt {} strings "Txt $\x7bA\x7d\n".toList "Btn OK".toList := by
      let above := numberedLines "Txt Hi\n\n".toList
      let a := ((above.dropLast.foldlM Assembly.addLine { palette := {}, strings }).toOption).getD default
      exact ⟨"Txt Hi\n\n".toList, a, 3, .syntaxError (.malformedButton "OK" 3), by decide +kernel, by decide +kernel,
        by decide +kernel⟩
    have htext : "Txt $\x7bA\x7d\nBtn OK".toList = "Txt $\x7bA\x7d\n".toList ++ ("Btn OK".toList ++ []) := rfl
    obtain ⟨-, ps, hps, hlines⟩ := parse_numbers_lines htext hroom (by decide) (by decide)
      (reads_greeting "\nBtn OK".toList (by decide)) (hkeys _)
    obtain ⟨n, rfl, -, -, hfails⟩ := hlines {} strings
    rw [hfeeds hps] at hfails
    have hclosing : ∀ data, Line.parse 3 "Btn OK".toList ≠ .ok (.command .closing data) := by
      have hread : Line.parse 3 "Btn OK".toList = .ok (.command .button "OK".toList) := by decide
      rw [hread]
      nofun
    obtain ⟨e, he', hline⟩ := hfails hstop hclosing
    exact ⟨_, he, hstop, hline _ (Except.error.inj (he'.symm.trans he))⟩

/-- Where a string has two lines, no widget comes from the second line of the description, and an error on that line is
reported on the third. -/
theorem parse_shifts_lines :
    let strings : StringTable := ⟨[("A", "Hi\n#")]⟩
    numberedLines "Txt $\x7bA\x7d\nBtn [OK]".toList = [("Txt $\x7bA\x7d".toList, 1), ("Btn [OK]".toList, 2)] ∧
      Line.parse 2 "Btn [OK]".toList = .ok (.command .button "[OK]".toList) ∧
      (∃ f, parse "Txt $\x7bA\x7d\nBtn [OK]" {} strings = .ok f ∧ f.tree.nodes.map (·.about.line) = #[1, 3, 0]) ∧
      numberedLines "Txt $\x7bA\x7d\nBtn OK".toList = [("Txt $\x7bA\x7d".toList, 1), ("Btn OK".toList, 2)] ∧
      parse "Txt $\x7bA\x7d\nBtn OK" {} strings = .error (.syntaxError (.malformedButton "OK" 3)) := by
  intro strings
  let f := ((parse "Txt $\x7bA\x7d\nBtn [OK]" {} strings).toOption).getD default
  exact ⟨by decide +kernel, by decide, ⟨f, by decide +kernel, by decide +kernel⟩, by decide +kernel, by decide +kernel⟩

end Form

end ScreenForm
