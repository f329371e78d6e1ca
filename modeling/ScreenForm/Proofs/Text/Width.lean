import ScreenForm.Text.Cluster
import ScreenForm.Layout.Paint
/-!
# Widths of labels

A label is measured as a line of text when a form is made, and cluster by cluster
when it is painted. As a line its signs take four columns, whatever it holds
(`Widget.measure_face`). As clusters it takes a column for each character that is
a cluster by itself (`visibleClusters_of_single`).
-/

namespace ScreenForm

namespace Text

variable {e : Edition} {c : Char} {cs : List Char}

theorem CharSet.contains_eq_any (s : CharSet) (c : Char) :
    s.contains c = s.runs.toList.any fun run => run.1 ≤ c.toNat && c.toNat ≤ run.2 := by
  rw [contains, Array.any_toList]

theorem CharSet.contains_of_lt {s : CharSet} {low : Nat} (hs : ∀ run ∈ s.runs.toList, low ≤ run.1) (hc : c.toNat < low) :
    s.contains c = false := by
  rw [← Bool.not_eq_true, contains_iff]
  rintro ⟨run, hmem, hfrom, -⟩
  have := hs run (Array.mem_toList_iff.2 hmem)
  omega

/-! ## As a line -/

theorem displayWidth_of_line (h : '\n' ∉ cs) : displayWidth cs = width cs := by
  rw [displayWidth, splitOn_of_not_mem h]
  exact Nat.zero_max _

/-- What holds nothing out is measured apart from what is in front of it. -/
theorem Edition.measure_append (cs : List Char) {ds : List Char} (hds : (e.measure ds).2 = .opened .nothing) :
    e.measure (cs ++ ds) = ((e.measure cs).1 + (e.measure ds).1, (e.measure cs).2) := by
  induction cs with
  | nil => exact Prod.ext (Int.zero_add _).symm hds
  | cons c cs ih =>
    rw [List.cons_append, measure, ih, measure]
    dsimp only
    rw [Int.add_right_comm]

/-- The signs that labels are written between or after. -/
def isSign (c : Char) : Bool := c ∈ "<>[](X) ".toList

/-- A sign takes a column, and joins nothing. -/
theorem Ahead.step_sign (hc : isSign c = true) (a : Ahead) : a.step e c = (1, .opened .nothing) := by
  have hmem : c ∈ "<>[](X) ".toList := of_decide_eq_true hc
  have hplain : "<>[](X) ".toList.all (fun c => c != '\n' && c != '\r' && c.toNat ≤ 0xa0) = true := by decide
  have happlies : "<>[](X) ".toList.all (fun c => !Presentation.text.applies c && !Presentation.picture.applies c &&
      !Presentation.fullwidth.applies c) = true := by
    simp only [Presentation.applies, CharSet.contains_eq_any]
    decide +kernel
  obtain ⟨⟨hfeed, hreturn⟩, hlow⟩ : (c ≠ '\n' ∧ c ≠ '\r') ∧ c.toNat ≤ 0xa0 := by
    simpa using List.all_eq_true.1 hplain c hmem
  obtain ⟨⟨htext, hpicture⟩, hfullwidth⟩ : (Presentation.text.applies c = false ∧ Presentation.picture.applies c = false) ∧
      Presentation.fullwidth.applies c = false := by
    simpa using List.all_eq_true.1 happlies c hmem
  have hunselected (o : Opening) : stepUnselected e o c = (1, .opened .nothing) := by
    simp [stepUnselected, hfeed, hreturn, hlow]
  obtain ⟨o, selected⟩ := a
  cases selected with
  | none => exact hunselected o
  | some p =>
    have hp : p.applies c = false := by cases p <;> assumption
    simp [step, hp, hunselected]

/-- Signs take a column each in front of any text. -/
theorem Edition.measure_signs {signs : List Char} (hsigns : signs.all isSign = true) (cs : List Char) :
    (e.measure (signs ++ cs)).1 = (e.measure cs).1 + signs.length ∧
      ((e.measure cs).2 = .opened .nothing → (e.measure (signs ++ cs)).2 = .opened .nothing) := by
  induction signs with
  | nil => exact ⟨(Int.add_zero _).symm, id⟩
  | cons c signs ih =>
    rw [List.all_cons, Bool.and_eq_true] at hsigns
    rw [List.cons_append, measure]
    dsimp only
    rw [Ahead.step_sign hsigns.1, (ih hsigns.2).1, List.length_cons]
    exact ⟨by omega, fun _ => rfl⟩

/-- What opens nothing by a sign of its own is joined by what continues it. -/
theorem Edition.measure_pair {c d : Char} {o : Opening} {added : Int}
    (hc : 0xa0 < c.toNat ∧ Presentation.ofSelector? e c = none) (hd : 0xa0 < d.toNat ∧ Presentation.ofSelector? e d = none)
    (hcontinue : (Opening.ofLast e d).continue? e c = some (added, o)) :
    e.measure [c, d] = (e.columns d + added, .opened o) := by
  have hstep {c : Char} (hc : 0xa0 < c.toNat ∧ Presentation.ofSelector? e c = none) (o : Opening) :
      (Ahead.opened o).step e c =
        (((o.continue? e c).getD (e.columns c, .ofLast e c)).1, .opened ((o.continue? e c).getD (e.columns c, .ofLast e c)).2) := by
    have hfeed : c ≠ '\n' := by
      rintro rfl
      simp at hc
    simp [Ahead.step, Ahead.opened, Ahead.stepUnselected, hfeed, hc.2, Nat.not_le.2 hc.1]
  have hlast : e.measure [d] = ((e.columns d : Int), Ahead.opened (.ofLast e d)) := by
    rw [measure, measure]
    dsimp only
    rw [hstep hd, Int.zero_add]
    rfl
  rw [measure, hlast]
  dsimp only
  rw [hstep hc, hcontinue, Option.getD_some]

/-! ## As clusters -/

/-- The character is a cluster by itself wherever the ones beside it are too, and has one cell. -/
structure Single (c : Char) : Prop where
  role : ClusterRole.ofChar c = .other
  consonant : Table.consonants.contains c = false
  control : isControl c = false
  columns : cellWidth [c] = 1

theorem single_of_printable (hlow : 0x20 ≤ c.toNat) (hhigh : c.toNat < 0x7f) : Single c where
  role := by
    have hcontrol : ∀ n < 0x7f, 0x20 ≤ n → ClusterRole.ofChar (Char.ofNat n) = .other := by decide
    simpa using hcontrol c.toNat hhigh hlow
  consonant := by
    have hruns : ∀ run ∈ Table.consonants.runs.toList, 0x80 ≤ run.1 := by decide +kernel
    exact CharSet.contains_of_lt hruns (by omega)
  control := by simp [isControl]; omega
  columns := by
    have hcolumns : ∀ n < 0x7f, 0x20 ≤ n → cellWidth [Char.ofNat n] = 1 := by decide
    simpa using hcolumns c.toNat hhigh hlow

theorem clusters_of_single (h : ∀ c ∈ cs, Single c) : clusters cs = cs.map ([·]) := by
  have hfrom {c : Char} (hc : Single c) {cs : List Char} (h : ∀ c ∈ cs, Single c) :
      clustersFrom (.start c) cs = [] :: cs.map ([·]) := by
    induction cs generalizing c with
    | nil => rfl
    | cons d cs ih =>
      rw [List.forall_mem_cons] at h
      have hjoins : (ClusterState.start c).joins d = false := by
        simp [ClusterState.joins, ClusterState.start, hc.role, hc.consonant, h.1.role]
      rw [clustersFrom, if_neg (by simp [hjoins]), ih h.1 h.2]
      rfl
  cases cs with
  | nil => rfl
  | cons c cs =>
    rw [List.forall_mem_cons] at h
    rw [clusters, hfrom h.1 h.2]
    rfl

/-- Such characters are seen one by one. -/
theorem visibleClusters_of_single (h : ∀ c ∈ cs, Single c) : Buffer.visibleClusters cs = cs.map fun c => ([c], 1) := by
  have hkept : (cs.map ([·])).filter (fun cluster => !cluster.any isControl) = cs.map ([·]) :=
    List.filter_eq_self.2 (by simpa using fun c hc => (h c hc).control)
  have hcells : (cs.map ([·])).map (fun cluster => (cluster, cellWidth cluster)) = cs.map fun c => ([c], 1) := by
    rw [List.map_map]
    exact List.map_congr_left fun c hc => by rw [Function.comp_apply, (h c hc).columns]
  rw [Buffer.visibleClusters, clusters_of_single h, hkept, hcells, List.filter_eq_self]
  simp

end Text

/-- As a line of text the signs of a label take four columns. -/
theorem Widget.measure_face {e : Text.Edition} {w : Widget} {label : String} (hw : w.label? = some label) :
    (e.measure w.face.toList).1 = (e.measure label.toList).1 + 4 := by
  have hclose : (e.measure (label.toList ++ " >".toList)).1 = (e.measure label.toList).1 + 2 := by
    have hsigns : " >".toList.all Text.isSign = true := by decide
    obtain ⟨hcolumns, hahead⟩ := Text.Edition.measure_signs (e := e) hsigns []
    rw [List.append_nil] at hcolumns hahead
    rw [Text.Edition.measure_append _ (hahead rfl), hcolumns]
    rfl
  have hmark {mark : String} (h : mark.toList.all Text.isSign = true) (hlength : mark.toList.length = 4) :
      (e.measure (mark ++ label).toList).1 = (e.measure label.toList).1 + 4 := by
    rw [String.toList_append, (Text.Edition.measure_signs h _).1, hlength]
    rfl
  cases w with
  | button text =>
    cases hw
    rw [Widget.face, String.toList_append, String.toList_append, List.append_assoc, (Text.Edition.measure_signs (by decide) _).1, hclose]
    exact Int.add_assoc _ 2 2
  | checkBox text checked =>
    cases hw
    cases checked <;> exact hmark (by decide) rfl
  | radioButton text checked =>
    cases hw
    cases checked <;> exact hmark (by decide) rfl
  | _ => cases hw

end ScreenForm
