import Mathlib.Data.List.Forall2
import Mathlib.Data.List.Perm.Basic
import Mathlib.Data.Prod.Lex
import Mathlib.Data.String.Basic
import X86Decoder.Statistics.Report
import X86Decoder.Proofs.CodeName

/-!
# Reports do not depend on the order of counting

The codes of a region are counted in a map, which may be gone through in any order. As text they are
listed by their counts and then by their names, and names are distinct, so there is one such list
only, whatever the order of the map and the way of sorting.

* `Histogram.Before`: the order of the list.
* `Histogram.eq_byCount`: there is one list in that order.
* `Histogram.line`, `Statistics.heading`: what is printed, part by part.
* `Statistics.Reports`: what the text of a region is.
* `Statistics.render_text_traversal`: the text of a report, whatever order the codes are met in.
-/

namespace X86Decoder

namespace Histogram

/-- An entry stands before another one if it has the greater count, or the same count and the name
that comes first. -/
def Before (a b : Code × Int) : Prop :=
  b.2 < a.2 ∨ a.2 = b.2 ∧ a.1.name < b.1.name

/-- The line of an entry, with the name filled up to a width. -/
def line (width : Nat) (entry : Code × Int) : String :=
  String.join ["\t", entry.1.name,
    String.ofList (List.replicate (width - entry.1.name.length) ' '), "  ",
    Text.signedDecimal entry.2, "\n"]

/-- A width is that of the longest name. -/
structure IsWidth (codes : Histogram) (width : Nat) : Prop where
  length_le : ∀ entry ∈ codes, entry.1.name.length ≤ width
  exists_eq : codes ≠ [] → ∃ entry ∈ codes, entry.1.name.length = width

/-- The place of an entry among all entries. -/
def rank (entry : Code × Int) : Int ×ₗ String :=
  toLex (-entry.2, entry.1.name)

variable {a b : Code × Int}

/-- Names are distinct, so an entry is known by its place. -/
theorem rank_injective : Function.Injective rank := by
  intro a b h
  have hpair := toLex.injective h
  rw [Prod.mk.injEq, Int.neg_inj] at hpair
  exact Prod.ext (Code.name_injective hpair.2) hpair.1

theorem before_iff : Before a b ↔ rank a < rank b := by
  rw [Before, rank, rank, Prod.Lex.toLex_lt_toLex, Int.neg_lt_neg_iff, Int.neg_inj]

theorem textOrder_iff : textOrder a b ↔ rank a ≤ rank b := by
  rw [← not_lt, ← before_iff, textOrder, Before]
  -- The names are compared only if the counts are the same.
  split
  next h => simp [h]
  next h =>
    simp only [decide_eq_true_eq, Ne.symm h, false_and, or_false]
    omega

/-- The list by count is sorted. -/
theorem sorted_byCount (codes : Histogram) :
    codes.byCount.Pairwise fun a b => rank a ≤ rank b := by
  have htrans : ∀ a b c, textOrder a b → textOrder b c → textOrder a c := by
    simp only [textOrder_iff]
    exact fun _ _ _ => le_trans
  have htotal : ∀ a b, textOrder a b || textOrder b a := by
    simp only [Bool.or_eq_true, textOrder_iff]
    exact fun _ _ => le_total _ _
  exact (List.pairwise_mergeSort htrans htotal codes).imp textOrder_iff.1

/-- Entries that are sorted in any way stand as in the list by count. -/
theorem eq_byCount {codes listed : Histogram} (hperm : listed.Perm codes)
    (hsorted : listed.Pairwise fun a b => ¬Before b a) : listed = codes.byCount := by
  simp only [before_iff, not_lt] at hsorted
  -- Places are linearly ordered, and so two sorted lists of the same entries are one list.
  exact List.Perm.eq_of_pairwise (fun a b _ _ hab hba => rank_injective (le_antisymm hab hba))
    hsorted (sorted_byCount codes) (hperm.trans (List.mergeSort_perm codes textOrder).symm)

/-- Each code is in the map once, so no two entries of the list by count have the same place. -/
theorem pairwise_byCount {codes : Histogram} (hnodup : (codes.map Prod.fst).Nodup) :
    codes.byCount.Pairwise Before := by
  have hdistinct : codes.byCount.Nodup :=
    (List.mergeSort_perm codes textOrder).nodup_iff.2 hnodup.of_map
  refine ((sorted_byCount codes).and hdistinct).imp ?_
  rintro a b ⟨hle, hne⟩
  exact before_iff.2 (lt_of_le_of_ne hle (rank_injective.ne hne))

theorem isWidth_width (codes : Histogram) : codes.IsWidth codes.width := by
  rw [width, List.foldl_max, Nat.zero_max]
  cases hmax : (codes.map fun entry => entry.1.name.length).max? with
  | none =>
    have hnil : codes = [] := List.map_eq_nil_iff.1 (List.max?_eq_none_iff.1 hmax)
    constructor <;> simp [hnil]
  | some m =>
    obtain ⟨hmem, hle⟩ := List.max?_eq_some_iff.1 hmax
    exact ⟨fun entry hentry => hle _ (List.mem_map_of_mem hentry), fun _ => List.mem_map.1 hmem⟩

/-- There is one width of the longest name, if there is any name. -/
theorem IsWidth.eq {codes : Histogram} {w w' : Nat} (h : codes.IsWidth w) (h' : codes.IsWidth w')
    (hne : codes ≠ []) : w = w' := by
  obtain ⟨entry, hentry, rfl⟩ := h.exists_eq hne
  obtain ⟨entry', hentry', rfl⟩ := h'.exists_eq hne
  exact Nat.le_antisymm (h'.length_le entry hentry) (h.length_le entry' hentry')

theorem lines_eq (codes : Histogram) :
    codes.lines = String.join (codes.byCount.map (line codes.width)) := by
  refine congrArg String.join (List.map_congr_left fun entry _ => ?_)
  simp [line, Text.padRight, String.append_assoc]

/-- The lines are the same whatever order the entries are met in. -/
theorem lines_eq_of_perm {codes met : Histogram} (h : met.Perm codes) :
    met.lines = codes.lines := by
  have hlist : met.byCount = codes.byCount :=
    eq_byCount ((List.mergeSort_perm met textOrder).trans h)
      ((sorted_byCount met).imp fun hle => by rwa [before_iff, not_lt])
  have hwidth : met.width = codes.width := (h.map _).foldl_eq 0
  rw [lines_eq, lines_eq, hlist, hwidth]

end Histogram

namespace Statistics

/-- The same statistics, with the codes in the order in which a traversal meets them. -/
structure Traverses (s met : Statistics) : Prop where
  eq : met = { s with codes := met.codes }
  perm : List.Perm (met.codes.getD []) (s.codes.getD [])

/-- What is said of a region before its codes. -/
def heading (s : Statistics) : String :=
  String.join ([s.region, ": ", Text.decimal s.mode.bits, "-bit, ", Text.signedDecimal s.bytes,
    " bytes, ", Text.signedDecimal s.instructions, " instructions, ",
    Text.signedDecimal s.invalid, " invalid bytes"]
    ++ (if 0 < s.undecoded then [", ", Text.signedDecimal s.undecoded, " bytes not decoded"]
      else [])
    ++ ["\n"])

theorem header_eq (s : Statistics) : s.header = s.heading := by
  rw [header, heading]
  split <;> simp [String.append_assoc]

/-- The text of a region is a heading and a line for each entry, ordered by count and name, with the
names filled up to the longest of them. -/
def Reports (s : Statistics) (text : String) : Prop :=
  ∃ listed : Histogram, ∃ width : Nat,
    listed.Perm (s.codes.getD []) ∧ listed.Pairwise Histogram.Before ∧
    Histogram.IsWidth (s.codes.getD []) width ∧
    text = s.heading ++ String.join (listed.map (Histogram.line width))

theorem text_eq (s : Statistics) :
    s.text = s.heading ++ String.join ((s.codes.getD []).byCount.map
      (Histogram.line (s.codes.getD []).width)) := by
  rw [text, header_eq, Histogram.lines_eq]

theorem reports_text {s : Statistics} (hmap : ((s.codes.getD []).map Prod.fst).Nodup) :
    s.Reports s.text :=
  ⟨(s.codes.getD []).byCount, (s.codes.getD []).width, List.mergeSort_perm _ _,
    Histogram.pairwise_byCount hmap, Histogram.isWidth_width _, s.text_eq⟩

theorem text_eq_of_traverses {s met : Statistics} (h : s.Traverses met) : met.text = s.text := by
  rw [text, text, Histogram.lines_eq_of_perm h.perm, h.eq]
  rfl

/-- A report as text does not depend on the order in which the codes of its regions are met, nor on
the way in which they are sorted. It is made of the texts of the regions, in order. -/
theorem render_text_traversal (encoders : Encoders) {stats met : List Statistics}
    (hmap : ∀ s ∈ stats, ((s.codes.getD []).map Prod.fst).Nodup)
    (hmet : List.Forall₂ Traverses stats met) :
    render encoders .text met = render encoders .text stats ∧
    (∃ texts, List.Forall₂ Reports stats texts ∧
      render encoders .text met = String.join texts) ∧
    ∀ s ∈ met, ∀ (listed : Histogram) (width : Nat), listed.Perm (s.codes.getD []) →
      (listed.Pairwise fun a b => ¬Histogram.Before b a) →
      Histogram.IsWidth (s.codes.getD []) width →
      s.text = s.heading ++ String.join (listed.map (Histogram.line width)) := by
  have htexts : met.map text = stats.map text := by
    rw [← List.forall₂_eq_eq_eq, List.forall₂_map_left_iff, List.forall₂_map_right_iff]
    exact hmet.flip.imp fun _ _ => text_eq_of_traverses
  have hrender : render encoders .text met = render encoders .text stats :=
    congrArg String.join htexts
  refine ⟨hrender, ⟨stats.map text, ?_, hrender⟩, ?_⟩
  · rw [List.forall₂_map_right_iff, List.forall₂_same]
    exact fun s hs => reports_text (hmap s hs)
  · intro s _ listed width hperm hsorted hwidth
    rw [text_eq, ← Histogram.eq_byCount hperm hsorted]
    by_cases hnil : s.codes.getD [] = []
    · rw [hnil, List.perm_nil] at hperm
      rw [hperm, List.map_nil, List.map_nil]
    · rw [hwidth.eq (Histogram.isWidth_width _) hnil]

/-- Statistics of a region with the given codes. -/
def ofCodes (codes : Histogram) : Statistics :=
  ⟨"boot", .known .bits16, 13, 4, 1, 4, some codes⟩

/-- Two codes of the table, one of which occurs more often, and one that is not in it. -/
theorem render_text_traversal_three :
    let encoders : Encoders := ⟨fun _ => "", fun _ => ""⟩
    let stats := [ofCodes [(⟨1⟩, 1), (⟨2⟩, 2), (⟨0xffff⟩, 1)]]
    let met := [ofCodes [(⟨0xffff⟩, 1), (⟨1⟩, 1), (⟨2⟩, 2)]]
    (∀ s ∈ stats, ((s.codes.getD []).map Prod.fst).Nodup) ∧ List.Forall₂ Traverses stats met ∧
      render encoders .text met = render encoders .text stats ∧
      render encoders .text met =
        "boot: 16-bit, 13 bytes, 4 instructions, 1 invalid bytes, 4 bytes not decoded\n" ++
        "\tAdd_Eq_Gq    2\n" ++ "\tAdd_Eb_Gb    1\n" ++ "\tCode(65535)  1\n" := by
  intro encoders stats met
  have hmap : ∀ s ∈ stats, ((s.codes.getD []).map Prod.fst).Nodup :=
    List.forall_mem_singleton.2 (by decide)
  have hperm : List.Perm [((⟨0xffff⟩, 1) : Code × Int), (⟨1⟩, 1), (⟨2⟩, 2)]
      [(⟨1⟩, 1), (⟨2⟩, 2), (⟨0xffff⟩, 1)] := by
    decide
  have hmet : List.Forall₂ Traverses stats met := .cons ⟨rfl, hperm⟩ .nil
  obtain ⟨hsame, -, hlisted⟩ := render_text_traversal encoders hmap hmet
  refine ⟨hmap, hmet, hsame, ?_⟩
  have hfirst : Code.name ⟨1⟩ = "Add_Eb_Gb" := Code.name_eq rfl
  have hsecond : Code.name ⟨2⟩ = "Add_Eq_Gq" := Code.name_eq rfl
  have hother : Code.name ⟨0xffff⟩ = "Code(65535)" := by
    refine (Code.name_cases ⟨0xffff⟩).resolve_left fun h => ?_
    have hlt := (List.getElem?_eq_some_iff.1 h).1
    rw [Code.length_nameList] at hlt
    exact absurd hlt (by decide)
  have horder : ¬"Code(65535)" < "Add_Eb_Gb" := by decide
  have hsorted : List.Pairwise (fun a b => ¬Histogram.Before b a)
      [((⟨2⟩, 2) : Code × Int), (⟨1⟩, 1), (⟨0xffff⟩, 1)] := by
    simpa [Histogram.Before, hfirst, hother] using horder
  have hwidth : Histogram.IsWidth [(⟨0xffff⟩, 1), (⟨1⟩, 1), (⟨2⟩, 2)] 11 := by
    refine ⟨?_, fun _ => ⟨(⟨0xffff⟩, 1), List.mem_cons_self, by rw [hother]; decide⟩⟩
    simp only [List.forall_mem_cons, hfirst, hsecond, hother]
    exact ⟨by decide, by decide, by decide, List.forall_mem_nil _⟩
  have htext := hlisted _ (List.mem_singleton.2 rfl) _ 11 (by decide) hsorted hwidth
  change String.join [text _] = _
  rw [htext]
  simp only [List.map_cons, List.map_nil, Histogram.line, hfirst, hsecond, hother]
  rfl

end Statistics

end X86Decoder
