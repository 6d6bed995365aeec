import EnvironmentOperator.Script
import Mathlib.Data.List.TakeWhile

namespace EnvironmentOperator

namespace Text

def OneLine (s : String) : Prop := '\n' ∉ s.toList

variable {a b : String}

theorem oneLine_ofList {cs : List Char} (h : '\n' ∉ cs) : OneLine (String.ofList cs) := by
  rw [OneLine, String.toList_ofList]
  exact h

theorem OneLine.append (ha : OneLine a) (hb : OneLine b) : OneLine (a ++ b) := by
  rw [OneLine, String.toList_append, List.mem_append]
  exact not_or.2 ⟨ha, hb⟩

theorem splitLines_append (a b : String) : splitLines (a ++ "\n" ++ b) = splitLines a ++ splitLines b := by
  have hbreak : "\n".toList = ['\n'] := rfl
  have htext : (a ++ "\n" ++ b).toList = a.toList ++ '\n' :: b.toList := by
    simp [String.toList_append, hbreak]
  rw [splitLines, htext, List.splitOn_append_cons_self, List.map_append]
  rfl

theorem OneLine.splitLines (h : OneLine a) : splitLines a = [a] := by
  rw [Text.splitLines, (List.splitOn_eq_singleton h), List.map_singleton, String.ofList_toList]

theorem splitLines_intercalate {ls : List String} (hsome : ls ≠ []) :
    splitLines ("\n".intercalate ls) = ls.flatMap splitLines := by
  induction ls with
  | nil => exact absurd rfl hsome
  | cons l rest ih =>
      cases rest with
      | nil => simp
      | cons m rest =>
          rw [String.intercalate_cons_cons, splitLines_append, ih (by simp)]
          rfl

theorem flatMap_splitLines {ls : List String} (h : ∀ l ∈ ls, OneLine l) : ls.flatMap splitLines = ls := by
  induction ls with
  | nil => rfl
  | cons l rest ih =>
      obtain ⟨hl, hrest⟩ := List.forall_mem_cons.1 h
      rw [List.flatMap_cons, hl.splitLines, ih hrest, List.singleton_append]

theorem splitFirst?_append {c : Char} {cs before : List Char} (h : c ∉ before) (after : List Char) :
    splitFirst? (c :: cs) (before ++ (c :: cs ++ after)) = some (before, after) := by
  induction before with
  | nil =>
      have hhere : (c :: cs).isPrefixOf (c :: (cs ++ after)) = true :=
        List.isPrefixOf_iff_prefix.2 (List.prefix_append (c :: cs) after)
      simp [splitFirst?, hhere]
  | cons d before ih =>
      obtain ⟨hd, hbefore⟩ := not_or.1 (mt List.mem_cons.2 h)
      have hnot : (c :: cs).isPrefixOf (d :: (before ++ (c :: cs ++ after))) = false := by
        simp [List.isPrefixOf, hd]
      rw [List.cons_append, splitFirst?, hnot, ih hbefore]
      rfl

theorem replaceFirst_append {pattern before : String} {c : Char} {cs : List Char} (hpattern : pattern.toList = c :: cs)
    (h : c ∉ before.toList) (new after : String) :
    replaceFirst pattern new (before ++ pattern ++ after) = before ++ new ++ after := by
  have htext : (before ++ pattern ++ after).toList = before.toList ++ (c :: cs ++ after.toList) := by
    simp [String.toList_append, hpattern]
  rw [replaceFirst, htext, hpattern, splitFirst?_append h]
  simp [String.ofList_toList]

end Text

open Text

structure EnvironmentSpec.OneLined (spec : EnvironmentSpec) : Prop where
  version : OneLine spec.version
  packages : ∀ d ∈ spec.dependencies, OneLine d.name ∧ OneLine d.version

namespace Toolchain

def versionVariable : Toolchain → String
  | .python => "PYTHON_VERSION"
  | .nodejs => "NODEJS_VERSION"
  | .go => "GO_VERSION"
  | .rust => "RUST_VERSION"
  | .java => "JAVA_VERSION"

def commands (t : Toolchain) : List String := t.bodyLines.tail

theorem bodyLines_eq (t : Toolchain) : t.bodyLines = (t.versionVariable ++ "=" ++ placeholder) :: t.commands := by
  cases t <;> rfl

theorem commands_ne_nil (t : Toolchain) : t.commands ≠ [] := by cases t <;> exact nofun

/-- The placeholder stands in the first line alone, so that is where the version goes. -/
theorem sectionText_eq (t : Toolchain) (version : String) : t.sectionText version =
    "\n".intercalate (t.heading :: (t.versionVariable ++ "=" ++ t.chosenVersion version) :: t.commands) := by
  have hfree : '\x7b' ∉ (t.versionVariable ++ "=").toList := by cases t <;> decide
  have hbody : t.body = t.versionVariable ++ "=" ++ placeholder ++ ("\n" ++ "\n".intercalate t.commands) := by
    rw [body, bodyLines_eq, String.intercalate_cons_of_ne_nil t.commands_ne_nil, String.append_assoc]
  rw [sectionText, hbody, replaceFirst_append rfl hfree, String.intercalate_cons_cons,
    String.intercalate_cons_of_ne_nil t.commands_ne_nil]
  simp only [String.append_assoc]

end Toolchain

namespace Script

variable {spec : EnvironmentSpec} {t : Toolchain} {line version : String}

theorem packageLine_eq (d : Dependency) : packageLine d =
    "sudo apt-get install -y " ++ (d.name ++ if d.version = "" then "" else "=" ++ d.version) := by
  unfold packageLine
  split <;> simp [String.append_assoc]

def languageLines (spec : EnvironmentSpec) : List String :=
  match Toolchain.ofLanguage? spec.language with
  | some t => t.heading :: (t.versionVariable ++ "=" ++ t.chosenVersion spec.version) :: t.commands
  | none => []

def lines (spec : EnvironmentSpec) : List String :=
  baseLines ++ languageLines spec ++ ["", packagesHeader] ++ spec.dependencies.map packageLine ++ "" :: cleanupLines

def fixedLines : List String := baseLines ++ packagesHeader :: cleanupLines

section Lines

theorem oneLine_fixedLines : ∀ l ∈ fixedLines, OneLine l := by
  simp only [fixedLines, baseLines, cleanupLines, List.forall_mem_append, List.forall_mem_cons, List.not_mem_nil,
    false_imp_iff, forall_const, and_true]
  and_intros <;> exact oneLine_ofList (by decide)

theorem oneLine_commands (t : Toolchain) : ∀ l ∈ t.commands, OneLine l := by
  cases t <;>
    simp only [Toolchain.commands, Toolchain.bodyLines, List.tail_cons, List.forall_mem_cons, List.not_mem_nil,
      false_imp_iff, forall_const, and_true] <;>
    and_intros <;> exact oneLine_ofList (by decide)

theorem sectionLines_eq (t : Toolchain) (h : OneLine version) : t.sectionLines version =
    t.heading :: (t.versionVariable ++ "=" ++ t.chosenVersion version) :: t.commands := by
  have hheading : OneLine t.heading := by cases t <;> exact oneLine_ofList (by decide)
  have hvariable : OneLine t.versionVariable := by cases t <;> exact oneLine_ofList (by decide)
  have hdefault : OneLine t.defaultVersion := by cases t <;> exact oneLine_ofList (by decide)
  have hset : OneLine "=" := oneLine_ofList (by decide)
  have hchosen : OneLine (t.chosenVersion version) := by
    unfold Toolchain.chosenVersion
    split
    · exact hdefault
    · exact h
  rw [Toolchain.sectionLines, t.sectionText_eq, splitLines_intercalate (by simp), flatMap_splitLines]
  rw [List.forall_mem_cons, List.forall_mem_cons]
  exact ⟨hheading, (hvariable.append hset).append hchosen, oneLine_commands t⟩

theorem splitLines_languageSection (h : OneLine spec.version) :
    (languageSection spec).flatMap splitLines = languageLines spec := by
  unfold languageSection languageLines
  cases Toolchain.ofLanguage? spec.language with
  | none => rfl
  | some t => exact (List.flatMap_singleton _ _).trans (sectionLines_eq t h)

theorem oneLine_packageLine {d : Dependency} (hname : OneLine d.name) (hversion : OneLine d.version) :
    OneLine (packageLine d) := by
  have hpin : OneLine (if d.version = "" then "" else "=" ++ d.version) := by
    split
    · exact oneLine_ofList (by decide)
    · exact (oneLine_ofList (by decide) : OneLine "=").append hversion
  have hinstall : OneLine "sudo apt-get install -y " := oneLine_ofList (by decide)
  rw [packageLine_eq]
  exact hinstall.append (hname.append hpin)

theorem splitLines_render (h : spec.OneLined) : splitLines (render spec) = lines spec := by
  have hblank : OneLine "" := oneLine_ofList (by decide)
  obtain ⟨hbase, hrest⟩ := List.forall_mem_append.1 oneLine_fixedLines
  obtain ⟨hheader, hcleanup⟩ := List.forall_mem_cons.1 hrest
  have hbetween : ∀ l ∈ ["", packagesHeader], OneLine l := by simp [hblank, hheader]
  have hpackages : ∀ l ∈ spec.dependencies.map packageLine, OneLine l := by
    rw [List.forall_mem_map]
    exact fun d hd => oneLine_packageLine (h.packages d hd).1 (h.packages d hd).2
  have hend : ∀ l ∈ "" :: cleanupLines, OneLine l := List.forall_mem_cons.2 ⟨hblank, hcleanup⟩
  rw [render, splitLines_intercalate (by simp [parts]), parts, List.flatMap_append, List.flatMap_append,
    List.flatMap_append, List.flatMap_append, flatMap_splitLines hbase, splitLines_languageSection h.version,
    flatMap_splitLines hbetween, flatMap_splitLines hpackages, flatMap_splitLines hend]
  rfl

end Lines

section Comments

def IsComment (line : String) : Prop := line.toList.head? = some '#'

theorem not_isComment_append {c : Char} {cs : List Char} (h : c ≠ '#') (rest : String) :
    ¬IsComment (String.ofList (c :: cs) ++ rest) := by
  simpa [IsComment, String.toList_append] using h

theorem not_isComment_ofList {c : Char} {cs : List Char} (h : c ≠ '#') : ¬IsComment (String.ofList (c :: cs)) := by
  simpa [IsComment] using h

theorem not_isComment_packageLine (d : Dependency) : ¬IsComment (packageLine d) := by
  rw [packageLine_eq]
  exact not_isComment_append (by decide) _

theorem not_isComment_assignment (t : Toolchain) (version : String) :
    ¬IsComment (t.versionVariable ++ "=" ++ version) := by
  rw [String.append_assoc]
  cases t <;> exact not_isComment_append (by decide) _

theorem not_isComment_commands (t : Toolchain) : ∀ l ∈ t.commands, ¬IsComment l := by
  cases t <;>
    simp only [Toolchain.commands, Toolchain.bodyLines, List.tail_cons, List.forall_mem_cons, List.not_mem_nil,
      false_imp_iff, forall_const, and_true] <;>
    and_intros <;> exact not_isComment_ofList (by decide)

theorem isComment_ofList (cs : List Char) : IsComment (String.ofList ('#' :: cs)) := by
  simp [IsComment]

theorem isComment_heading (t : Toolchain) : IsComment t.heading := by
  cases t <;> exact isComment_ofList _

theorem isComment_packagesHeader : IsComment packagesHeader := isComment_ofList _

theorem count_eq_zero {ls : List String} (hline : IsComment line) (h : ∀ l ∈ ls, ¬IsComment l) : ls.count line = 0 :=
  List.count_eq_zero.2 fun hmem => h line hmem hline

def selectedHeading (spec : EnvironmentSpec) : List String :=
  ((Toolchain.ofLanguage? spec.language).map Toolchain.heading).toList

theorem count_languageLines (hline : IsComment line) :
    (languageLines spec).count line = (selectedHeading spec).count line := by
  unfold languageLines selectedHeading
  cases Toolchain.ofLanguage? spec.language with
  | none => rfl
  | some t =>
      have hassignment : (t.versionVariable ++ "=" ++ t.chosenVersion spec.version) ≠ line := by
        rintro rfl
        exact not_isComment_assignment t _ hline
      simp [List.count_cons, hassignment, count_eq_zero hline (not_isComment_commands t)]

theorem count_lines (hline : IsComment line) :
    (lines spec).count line = fixedLines.count line + (selectedHeading spec).count line := by
  have hblank : "" ≠ line := by
    rintro rfl
    revert hline
    exact nofun
  have hpackages : (spec.dependencies.map packageLine).count line = 0 := by
    refine count_eq_zero hline ?_
    rw [List.forall_mem_map]
    exact fun d _ => not_isComment_packageLine d
  simp only [lines, fixedLines, List.count_append, List.count_cons, List.count_nil, count_languageLines hline,
    hpackages, beq_iff_eq, hblank, if_false]
  omega

theorem count_heading (spec : EnvironmentSpec) (t : Toolchain) :
    (lines spec).count t.heading = if spec.language = t.language then 1 else 0 := by
  have hfixed : fixedLines.count t.heading = 0 := by cases t <;> decide
  rw [count_lines (isComment_heading t), hfixed, Nat.zero_add, selectedHeading]
  by_cases hlanguage : spec.language = t.language
  · rw [if_pos hlanguage, Toolchain.ofLanguage?_eq_some_iff.2 hlanguage]
    simp
  · rw [if_neg hlanguage]
    cases hselected : Toolchain.ofLanguage? spec.language with
    | none => rfl
    | some u =>
        have hother : u ≠ t := by
          rintro rfl
          exact hlanguage (Toolchain.ofLanguage?_eq_some_iff.1 hselected)
        have hheading : u.heading ≠ t.heading := fun h => hother (Toolchain.heading_injective h)
        simp [hheading]

theorem count_packagesHeader (spec : EnvironmentSpec) : (lines spec).count packagesHeader = 1 := by
  have hfixed : fixedLines.count packagesHeader = 1 := by decide
  have hheading (t : Toolchain) : t.heading ≠ packagesHeader := by cases t <;> decide
  rw [count_lines isComment_packagesHeader, hfixed, selectedHeading]
  cases Toolchain.ofLanguage? spec.language with
  | none => rfl
  | some t => simp [hheading t]

end Comments

section Packages

def afterHeader (ls : List String) : List String := (ls.dropWhile (· ≠ packagesHeader)).tail

theorem lines_eq (spec : EnvironmentSpec) : lines spec = (baseLines ++ languageLines spec ++ [""]) ++
    packagesHeader :: (spec.dependencies.map packageLine ++ "" :: cleanupLines) := by
  simp [lines]

theorem packagesHeader_not_mem (spec : EnvironmentSpec) : packagesHeader ∉ baseLines ++ languageLines spec ++ [""] := by
  have hone := count_packagesHeader spec
  rw [lines_eq, List.count_append, List.count_cons_self] at hone
  refine List.count_eq_zero.1 ?_
  omega

theorem afterHeader_lines (spec : EnvironmentSpec) :
    afterHeader (lines spec) = spec.dependencies.map packageLine ++ "" :: cleanupLines := by
  have hbefore : ∀ l ∈ baseLines ++ languageLines spec ++ [""], decide (l ≠ packagesHeader) = true := by
    intro l hl
    rw [decide_eq_true_eq]
    rintro rfl
    exact packagesHeader_not_mem spec hl
  rw [afterHeader, lines_eq, List.dropWhile_append_of_pos hbefore, List.dropWhile_cons_of_neg (by simp),
    List.tail_cons]

theorem packageLine_ne_blank (d : Dependency) : packageLine d ≠ "" := by
  rw [packageLine_eq]
  simp

end Packages

/-- A script holds the heading of the language's toolchain once and no other heading, below it the toolchain's lines
with the version in the first of them, and between the header of the packages and the next blank line the packages. -/
theorem render_sections (h : spec.OneLined) :
    (∀ t : Toolchain, (splitLines (render spec)).count t.heading = if spec.language = t.language then 1 else 0) ∧
    (∀ t : Toolchain, spec.language = t.language → splitLines (render spec) = baseLines ++
      (t.heading :: (t.versionVariable ++ "=" ++ if spec.version = "" then t.defaultVersion else spec.version) ::
        t.commands) ++ ["", packagesHeader] ++ spec.dependencies.map packageLine ++ "" :: cleanupLines) ∧
    (splitLines (render spec)).count packagesHeader = 1 ∧
    (afterHeader (splitLines (render spec))).takeWhile (· ≠ "") = spec.dependencies.map (fun d =>
      "sudo apt-get install -y " ++ (d.name ++ if d.version = "" then "" else "=" ++ d.version)) ∧
    (afterHeader (splitLines (render spec))).dropWhile (· ≠ "") = "" :: cleanupLines := by
  have hpackages : ∀ l ∈ spec.dependencies.map packageLine, decide (l ≠ "") = true := by
    simp only [List.forall_mem_map, decide_eq_true_eq]
    exact fun d _ => packageLine_ne_blank d
  rw [splitLines_render h]
  refine ⟨count_heading spec, ?_, count_packagesHeader spec, ?_, ?_⟩
  · intro t hlanguage
    rw [lines, languageLines, Toolchain.ofLanguage?_eq_some_iff.2 hlanguage]
    rfl
  · rw [afterHeader_lines, List.takeWhile_append_of_pos hpackages, List.takeWhile_cons_of_neg (by simp),
      List.append_nil]
    exact List.map_congr_left fun d _ => packageLine_eq d
  · rw [afterHeader_lines, List.dropWhile_append_of_pos hpackages, List.dropWhile_cons_of_neg (by simp)]

section Imitated

def imitated : EnvironmentSpec where
  language := "go"
  version := "# Rust toolchain"
  dependencies := [⟨"# Python tools", ""⟩, ⟨"jq", "1=# Clean up"⟩]

theorem oneLined_imitated : imitated.OneLined where
  version := oneLine_ofList (by decide)
  packages := by
    intro d hd
    simp only [imitated, List.mem_cons, List.not_mem_nil, or_false] at hd
    obtain rfl | rfl := hd <;> exact ⟨oneLine_ofList (by decide), oneLine_ofList (by decide)⟩

theorem render_sections_imitated : (splitLines (render imitated)).count Toolchain.go.heading = 1 ∧
    (splitLines (render imitated)).count Toolchain.rust.heading = 0 ∧
    (afterHeader (splitLines (render imitated))).takeWhile (· ≠ "") =
      ["sudo apt-get install -y # Python tools", "sudo apt-get install -y jq=1=# Clean up"] := by
  obtain ⟨hcount, -, -, hpackages, -⟩ := render_sections oneLined_imitated
  refine ⟨(hcount .go).trans (if_pos rfl), (hcount .rust).trans (if_neg (by decide)), hpackages.trans ?_⟩
  decide +kernel

end Imitated

end Script

end EnvironmentOperator
