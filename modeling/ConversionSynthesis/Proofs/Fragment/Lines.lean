import ConversionSynthesis.Proofs.Fragment.SingleLines

/-! # Blocks of lines

Running steps adds whole lines to a text. Where every block that is opened is closed again, and
every indentation undone, the lines at a level are those at level zero, further to the right; so the
lines of a unit can be told one by one, each with its depth.
-/

namespace ConversionSynthesis

open Text

/-! ## What steps add -/

namespace LayoutStep

/-- The lines that a step adds at a level, where each level has its columns. -/
def lines (columns : Nat → Nat) (level : Nat) : LayoutStep → List String
  | line text => [indented (columns level) text]
  | blank => [""]
  | indent => []
  | dedent => []
  | openBlock => [indented (columns level) "\x7b"]
  | closeBlock => [indented (columns (level - 1)) "\x7d"]

/-- The level behind a step. -/
def levelAfter (level : Nat) : LayoutStep → Nat
  | line _ => level
  | blank => level
  | indent => level + 1
  | dedent => level - 1
  | openBlock => level + 1
  | closeBlock => level - 1

/-- The lines that steps add from a level on. -/
def linesFrom (columns : Nat → Nat) : (level : Nat) → List LayoutStep → List String
  | _, [] => []
  | level, next :: rest =>
      next.lines columns level ++ linesFrom columns (next.levelAfter level) rest

/-- The level behind steps. -/
def levelBehind : (level : Nat) → List LayoutStep → Nat
  | level, [] => level
  | level, next :: rest => levelBehind (next.levelAfter level) rest

/-- The deepest level that steps reach from a level on. -/
def deepestFrom : (level : Nat) → List LayoutStep → Nat
  | level, [] => level
  | level, next :: rest => max level (deepestFrom (next.levelAfter level) rest)

theorem isLine_of_mem_lines {columns : Nat → Nat} {level : Nat} {next : LayoutStep}
    (single : ∀ text, next = .line text → IsLine text) :
    ∀ text ∈ next.lines columns level, IsLine text := by
  cases next with
  | line text => exact List.forall_mem_singleton.mpr (isLine_indented (single text rfl) _)
  | blank => exact List.forall_mem_singleton.mpr (by decide)
  | indent | dedent => exact List.forall_mem_nil _
  | openBlock | closeBlock => exact List.forall_mem_singleton.mpr (isLine_indented (by decide) _)

theorem isLine_of_mem_linesFrom {columns : Nat → Nat} {level : Nat} {steps : List LayoutStep}
    (single : ∀ text, .line text ∈ steps → IsLine text) :
    ∀ text ∈ linesFrom columns level steps, IsLine text := by
  induction steps generalizing level with
  | nil => exact List.forall_mem_nil _
  | cons next rest ih =>
      rw [linesFrom, List.forall_mem_append]
      exact ⟨isLine_of_mem_lines fun text same => single text (same ▸ List.mem_cons_self),
        ih fun text later => single text (List.mem_cons_of_mem _ later)⟩

/-- Only the columns of levels that the steps reach matter. -/
theorem linesFrom_congr {columns columns' : Nat → Nat} {level : Nat} {steps : List LayoutStep}
    (same : ∀ reached ≤ deepestFrom level steps, columns reached = columns' reached) :
    linesFrom columns level steps = linesFrom columns' level steps := by
  induction steps generalizing level with
  | nil => rfl
  | cons next rest ih =>
      have here : ∀ reached ≤ level, columns reached = columns' reached := fun reached below =>
        same reached (below.trans (Nat.le_max_left _ _))
      have first : next.lines columns level = next.lines columns' level := by
        cases next with
        | line _ | openBlock => simp only [lines, here level (Nat.le_refl _)]
        | closeBlock => simp only [lines, here (level - 1) (Nat.sub_le _ _)]
        | blank | indent | dedent => rfl
      rw [linesFrom, linesFrom, first,
        ih fun reached below => same reached (below.trans (Nat.le_max_right _ _))]

variable (columns : Nat → Nat) (level : Nat) (front back : List LayoutStep)

theorem levelBehind_append :
    levelBehind level (front ++ back) = levelBehind (levelBehind level front) back := by
  induction front generalizing level with
  | nil => rfl
  | cons next front ih => exact ih _

theorem linesFrom_append :
    linesFrom columns level (front ++ back) =
      linesFrom columns level front ++ linesFrom columns (levelBehind level front) back := by
  induction front generalizing level with
  | nil => rfl
  | cons next front ih => rw [List.cons_append, linesFrom, linesFrom, ih, List.append_assoc]; rfl

end LayoutStep

open LayoutStep

namespace Layout

theorem line_eq (layout : Layout) (text : String) :
    layout.line text =
      { layout with
        text := layout.text ++
          ofLines [indented (columns layout.level layout.width) text] } := by
  unfold line indented
  by_cases empty : text.isEmpty
  · have none : text = "" := by simpa using empty
    subst none
    rfl
  · rw [if_neg empty, if_neg empty]
    simp [ofLines, String.append_assoc]

theorem step_eq (layout : Layout) (next : LayoutStep) :
    layout.step next =
      { layout with
        level := next.levelAfter layout.level
        text := layout.text ++ ofLines (next.lines (columns · layout.width) layout.level) } := by
  cases next with
  | line text => exact line_eq layout text
  | blank => rfl
  | indent => simp [step, indent, LayoutStep.lines, levelAfter, ofLines]
  | dedent => simp [step, dedent, LayoutStep.lines, levelAfter, ofLines]
  | openBlock => rw [step, line_eq]; rfl
  | closeBlock => rw [step, line_eq]; rfl

theorem run_eq (layout : Layout) (steps : List LayoutStep) :
    layout.run steps =
      { layout with
        level := levelBehind layout.level steps
        text := layout.text ++
          ofLines (linesFrom (columns · layout.width) layout.level steps) } := by
  induction steps generalizing layout with
  | nil => simp [levelBehind, linesFrom, ofLines]
  | cons next rest ih =>
      rw [run_cons, ih, step_eq, linesFrom, ofLines_append, ← String.append_assoc]
      rfl

end Layout

/-! ## Blocks -/

/-- Every block that the steps open is closed again, and every indentation undone, in the order of
their nesting. -/
inductive LayoutStep.Balanced : List LayoutStep → Prop
  | nil : Balanced []
  | line {rest} (text : String) : Balanced rest → Balanced (.line text :: rest)
  | blank {rest} : Balanced rest → Balanced (.blank :: rest)
  | indented {inner rest} : Balanced inner → Balanced rest →
      Balanced (.indent :: (inner ++ .dedent :: rest))
  | block {inner rest} : Balanced inner → Balanced rest →
      Balanced (.openBlock :: (inner ++ .closeBlock :: rest))

namespace LayoutStep.Balanced

variable {steps : List LayoutStep}

theorem append {rest : List LayoutStep} (balanced : Balanced steps) (others : Balanced rest) :
    Balanced (steps ++ rest) := by
  induction balanced with
  | nil => exact others
  | line text _ ih => exact .line text ih
  | blank _ ih => exact .blank ih
  | indented inner _ _ ih =>
      rw [List.cons_append, List.append_assoc, List.cons_append]
      exact .indented inner ih
  | block inner _ _ ih =>
      rw [List.cons_append, List.append_assoc, List.cons_append]
      exact .block inner ih

theorem levelBehind (balanced : Balanced steps) (level : Nat) :
    levelBehind level steps = level := by
  induction balanced generalizing level with
  | nil => rfl
  | line text _ ih => exact ih level
  | blank _ ih => exact ih level
  -- The step down is behind the step up, so that it finds a level to leave.
  | indented _ _ ihInner ih | block _ _ ihInner ih =>
      rw [LayoutStep.levelBehind, levelBehind_append, ihInner, LayoutStep.levelBehind]
      exact ih level

theorem linesFrom_indented {inner : List LayoutStep} (balanced : Balanced inner)
    (columns : Nat → Nat) (level : Nat) (rest : List LayoutStep) :
    linesFrom columns level (.indent :: (inner ++ .dedent :: rest)) =
      linesFrom columns (level + 1) inner ++ linesFrom columns level rest := by
  rw [linesFrom, linesFrom_append, levelAfter, balanced.levelBehind]
  rfl

/-- The braces of a block stand at the level around it, its other lines one level further in. -/
theorem linesFrom_block {inner : List LayoutStep} (balanced : Balanced inner)
    (columns : Nat → Nat) (level : Nat) (rest : List LayoutStep) :
    linesFrom columns level (.openBlock :: (inner ++ .closeBlock :: rest)) =
      Text.indented (columns level) "\x7b" :: (linesFrom columns (level + 1) inner ++
        Text.indented (columns level) "\x7d" :: linesFrom columns level rest) := by
  rw [linesFrom, linesFrom_append, levelAfter, balanced.levelBehind]
  rfl

/-- So many levels further in, steps add the same lines further to the right. -/
theorem linesFrom_add (balanced : Balanced steps) (width above level : Nat) :
    linesFrom (· * width) (above + level) steps =
      (linesFrom (· * width) level steps).map (Text.indented (above * width)) := by
  induction balanced generalizing level with
  | nil => rfl
  | line text _ ih =>
      rw [linesFrom, linesFrom, List.map_append, levelAfter, levelAfter, ih, LayoutStep.lines,
        LayoutStep.lines, List.map_singleton, indented_indented, Nat.add_mul]
  | blank _ ih => exact congrArg _ (ih level)
  | indented inner _ ihInner ih =>
      rw [inner.linesFrom_indented, inner.linesFrom_indented, List.map_append, Nat.add_assoc,
        ihInner, ih]
  | block inner _ ihInner ih =>
      rw [inner.linesFrom_block, inner.linesFrom_block, List.map_cons, List.map_append,
        List.map_cons, indented_indented, indented_indented, ← Nat.add_mul, Nat.add_assoc,
        ihInner, ih]

end LayoutStep.Balanced

theorem LayoutStep.levelAfter_mono (next : LayoutStep) {level level' : Nat}
    (further : level ≤ level') : next.levelAfter level ≤ next.levelAfter level' := by
  cases next with
  | line _ | blank => exact further
  | indent | openBlock => exact Nat.succ_le_succ further
  | dedent | closeBlock => exact Nat.sub_le_sub_right further 1

theorem LayoutStep.deepestFrom_mono (steps : List LayoutStep) {level level' : Nat}
    (further : level ≤ level') : deepestFrom level steps ≤ deepestFrom level' steps := by
  induction steps generalizing level level' with
  | nil => exact further
  | cons next rest ih =>
      have later := ih (next.levelAfter_mono further)
      rw [deepestFrom, deepestFrom]
      omega

/-- The columns of levels that fit a machine word are products. -/
theorem LayoutStep.linesFrom_columns {width level : Nat} {steps : List LayoutStep}
    (fits : deepestFrom level steps * width < UInt64.size) :
    linesFrom (Layout.columns · width) level steps = linesFrom (· * width) level steps :=
  linesFrom_congr fun _ reached =>
    Layout.columns_eq (Nat.lt_of_le_of_lt (Nat.mul_le_mul_right width reached) fits)

/-- Balanced steps add the lines that they add at level zero, moved to the right by the columns of
the level where they start, and go on at that level. -/
theorem Layout.run_balanced (layout : Layout) {steps : List LayoutStep} (balanced : Balanced steps)
    (single : ∀ text, .line text ∈ steps → IsLine text)
    (fits : deepestFrom layout.level steps * layout.width < UInt64.size) :
    layout.run steps =
      { layout with
        text := layout.text ++ ofLines
          ((Text.lines (Layout.run { width := layout.width } steps).text).map
            (Text.indented (layout.level * layout.width))) } := by
  have fitsAtZero : deepestFrom 0 steps * layout.width < UInt64.size :=
    Nat.lt_of_le_of_lt (Nat.mul_le_mul_right _ (deepestFrom_mono steps (Nat.zero_le _))) fits
  have found : Text.lines (Layout.run { width := layout.width } steps).text =
      linesFrom (· * layout.width) 0 steps := by
    rw [run_eq, String.empty_append, lines_ofLines, ← linesFrom_columns fitsAtZero]
    exact flatMap_pieces (isLine_of_mem_linesFrom single)
  rw [run_eq, found, balanced.levelBehind, ← balanced.linesFrom_add, Nat.add_zero,
    linesFrom_columns fits]

/-! ## Units -/

namespace TypeDecl

variable (type : TypeDecl) (kept : List Candidate) (options : UnitOptions)

/-- The lines in front of the first block: the preamble, and an empty line behind it if there is
one. -/
def preambleLines : List String :=
  type.preamble options ++ if (type.preamble options).isEmpty then [] else [""]

/-- The operators, each with its documentation before it, and an empty line between two of them. -/
def operatorLines : List String :=
  [""].intercalate (kept.map fun x => [type.operatorSummary, x.operator type])

/-- The heads of the blocks with their opening braces, each one level further in than the one
before it. -/
def openingLines (width : Nat) : List String :=
  type.blockHeads.zipIdx.flatMap fun head =>
    [Text.indented (Layout.columns head.2 width) head.1,
      Text.indented (Layout.columns head.2 width) "\x7b"]

/-- The closing braces, each at the depth of its opening one. -/
def closingLines (width : Nat) : List String :=
  (List.range type.blockHeads.length).reverse.map fun depth =>
    Text.indented (Layout.columns depth width) "\x7d"

/-- The lines of the blocks, with the operators within the innermost one. -/
def blockLines (width : Nat) : List String :=
  type.openingLines width ++
  (type.operatorLines kept).map (Text.indented (Layout.columns type.blockHeads.length width)) ++
  type.closingLines width

end TypeDecl

/-- From a level on, the steps add the lines, and go on at the level behind them. -/
structure LayoutStep.Adds (columns : Nat → Nat) (level : Nat) (steps : List LayoutStep)
    (added : List String) (behind : Nat) : Prop where
  lines : linesFrom columns level steps = added
  level : levelBehind level steps = behind

namespace LayoutStep.Adds

variable {columns : Nat → Nat} {level middle behind : Nat} {front back : List LayoutStep}
  {added further : List String}

theorem append (first : Adds columns level front added middle)
    (second : Adds columns middle back further behind) :
    Adds columns level (front ++ back) (added ++ further) behind where
  lines := by rw [linesFrom_append, first.level, first.lines, second.lines]
  level := by rw [levelBehind_append, first.level, second.level]

theorem texts (columns : Nat → Nat) (level : Nat) (texts : List String) :
    Adds columns level (texts.map .line) (texts.map (Text.indented (columns level))) level := by
  induction texts with
  | nil => exact ⟨rfl, rfl⟩
  | cons text rest ih => exact ⟨congrArg _ ih.lines, ih.level⟩

theorem heads (columns : Nat → Nat) (level : Nat) (heads : List String) :
    Adds columns level (heads.flatMap fun head => [.line head, .openBlock])
      ((heads.zipIdx level).flatMap fun head =>
        [Text.indented (columns head.2) head.1, Text.indented (columns head.2) "\x7b"])
      (level + heads.length) := by
  induction heads generalizing level with
  | nil => exact ⟨rfl, rfl⟩
  | cons head rest ih =>
      refine ⟨congrArg (_ :: _ :: ·) (ih (level + 1)).lines, (ih (level + 1)).level.trans ?_⟩
      rw [List.length_cons, Nat.add_assoc, Nat.add_comm 1]

theorem operators (columns : Nat → Nat) (level : Nat) (type : TypeDecl) (kept : List Candidate) :
    Adds columns level (type.operatorSteps kept)
      ((type.operatorLines kept).map (Text.indented (columns level))) level := by
  induction kept with
  | nil => exact ⟨rfl, rfl⟩
  | cons first rest ih =>
      cases rest with
      | nil => exact ⟨rfl, rfl⟩
      | cons second rest => exact ⟨congrArg (_ :: _ :: _ :: ·) ih.lines, ih.level⟩

theorem closing (columns : Nat → Nat) (heads : List String) :
    Adds columns heads.length (heads.map fun _ => .closeBlock)
      ((List.range heads.length).reverse.map fun depth =>
        Text.indented (columns depth) "\x7d") 0 := by
  induction heads with
  | nil => exact ⟨rfl, rfl⟩
  | cons head rest ih =>
      rw [List.length_cons, List.range_succ, List.reverse_concat]
      exact ⟨congrArg (_ :: ·) ih.lines, ih.level⟩

end LayoutStep.Adds

namespace TypeDecl

variable (type : TypeDecl) (kept : List Candidate) (options : UnitOptions)

/-- The steps of a unit add its lines, and close all blocks. -/
theorem adds_unitSteps :
    Adds (Layout.columns · options.indentWidth) 0 (type.unitSteps kept options)
      (type.preambleLines options ++ type.blockLines kept options.indentWidth) 0 := by
  have whole : Text.indented (Layout.columns 0 options.indentWidth) = id := by
    funext line
    rw [Layout.columns, Nat.zero_mul, Nat.zero_mod, indented_zero, id]
  have preamble := Adds.texts (Layout.columns · options.indentWidth) 0 (type.preamble options)
  rw [whole, List.map_id] at preamble
  have gap : Adds (Layout.columns · options.indentWidth) 0
      (if (type.preamble options).isEmpty then [] else [.blank])
      (if (type.preamble options).isEmpty then [] else [""]) 0 := by
    split <;> exact ⟨rfl, rfl⟩
  have heads := Adds.heads (Layout.columns · options.indentWidth) 0 type.blockHeads
  rw [Nat.zero_add] at heads
  have blocks := (heads.append (.operators _ _ type kept)).append (.closing _ type.blockHeads)
  simpa only [unitSteps, preambleLines, blockLines, openingLines, closingLines,
    List.append_assoc] using
    (preamble.append gap).append blocks

theorem balanced_operatorSteps : Balanced (type.operatorSteps kept) := by
  induction kept with
  | nil => exact .nil
  | cons first rest ih =>
      cases rest with
      | nil => exact .line _ (.line _ .nil)
      | cons second rest => exact .line _ (.line _ (.blank ih))

theorem balanced_blocks {inner : List LayoutStep} (balanced : Balanced inner)
    (heads : List String) :
    Balanced ((heads.flatMap fun head => [.line head, .openBlock]) ++ inner ++
      heads.map fun _ => .closeBlock) := by
  induction heads with
  | nil => simpa using balanced
  | cons head rest ih =>
      have closing : (head :: rest).map (fun _ => LayoutStep.closeBlock) =
          rest.map (fun _ => .closeBlock) ++ [.closeBlock] := by
        rw [List.map_const', List.map_const', List.length_cons, List.replicate_succ']
      rw [closing]
      simpa using Balanced.line head (.block ih .nil)

theorem balanced_unitSteps : Balanced (type.unitSteps kept options) := by
  have texts (texts : List String) : Balanced (texts.map .line) := by
    induction texts with
    | nil => exact .nil
    | cons text rest ih => exact .line text ih
  have gap : Balanced (if (type.preamble options).isEmpty then [] else [.blank]) := by
    split
    · exact .nil
    · exact .blank .nil
  have blocks := balanced_blocks (type.balanced_operatorSteps kept) type.blockHeads
  simpa only [unitSteps, List.append_assoc] using ((texts _).append gap).append blocks

theorem unitText_eq_ofLines :
    type.unitText kept options =
      ofLines (type.preambleLines options ++ type.blockLines kept options.indentWidth) := by
  rw [unitText, Layout.run_eq, String.empty_append, (type.adds_unitSteps kept options).lines]

variable {type kept options}

theorem isLine_of_mem_preamble (header : IsLine options.header)
    (usings : ∀ path ∈ type.usings, IsLine path) :
    ∀ line ∈ type.preamble options, IsLine line := by
  rw [preamble, List.forall_mem_append, List.forall_mem_append, List.forall_mem_map]
  refine ⟨⟨?header, ?context⟩, ?imports⟩
  case header =>
    split
    · exact List.forall_mem_nil _
    · exact List.forall_mem_singleton.mpr header
  case context =>
    split
    · exact List.forall_mem_singleton.mpr (by decide +kernel)
    · exact List.forall_mem_nil _
  case imports =>
    intro path listed
    have single := usings path listed
    simp_all [IsLine]

theorem isLine_of_mem_preambleLines (header : IsLine options.header)
    (usings : ∀ path ∈ type.usings, IsLine path) :
    ∀ line ∈ type.preambleLines options, IsLine line := by
  rw [preambleLines, List.forall_mem_append]
  refine ⟨isLine_of_mem_preamble header usings, ?_⟩
  split
  · exact List.forall_mem_nil _
  · exact List.forall_mem_singleton.mpr (by decide)

theorem isLine_of_mem_operatorLines (summary : IsLine type.operatorSummary)
    (operators : ∀ x ∈ kept, IsLine (x.operator type)) :
    ∀ line ∈ type.operatorLines kept, IsLine line := by
  induction kept with
  | nil => exact List.forall_mem_nil _
  | cons first rest ih =>
      rw [List.forall_mem_cons] at operators
      have own : ∀ line ∈ [type.operatorSummary, first.operator type], IsLine line :=
        List.forall_mem_cons.mpr ⟨summary, List.forall_mem_singleton.mpr operators.1⟩
      cases rest with
      | nil => exact own
      | cons second rest =>
          have more : type.operatorLines (first :: second :: rest) =
              [type.operatorSummary, first.operator type] ++
                "" :: type.operatorLines (second :: rest) := rfl
          rw [more]
          exact List.forall_mem_append.mpr
            ⟨own, List.forall_mem_cons.mpr ⟨by decide, ih operators.2⟩⟩

theorem WritesLines.isLine_of_mem_blockLines (writes : type.WritesLines kept) (width : Nat) :
    ∀ line ∈ type.blockLines kept width, IsLine line := by
  rw [blockLines, openingLines, closingLines, List.forall_mem_append, List.forall_mem_append,
    List.forall_mem_flatMap, List.forall_mem_map, List.forall_mem_map]
  refine ⟨⟨fun head mem => ?_, fun line mem => ?_⟩, fun depth _ => isLine_indented (by decide) _⟩
  · rw [List.forall_mem_cons, List.forall_mem_singleton]
    exact ⟨isLine_indented (writes.heads _ (List.fst_mem_of_mem_zipIdx mem)) _,
      isLine_indented (by decide) _⟩
  · exact isLine_indented (isLine_of_mem_operatorLines writes.summary writes.operators line mem) _

end TypeDecl

/-! ## Blocks and units -/

/-- Balanced steps add at a level the lines that they add at level zero, each that is not empty
moved to the right by the columns of the level, and end at that level, as long as the columns of the
deepest line fit a machine word. The steps of a unit are balanced, and its text is the preamble, if
there is one, with an empty line behind it, then the heads of the blocks with their opening braces,
each pair one level further in than the last, the operators within the innermost block, and the
closing braces back out to level zero. Read line by line, it is these lines, as long as none of the
names and spellings in them brings a newline of its own; those of accepted manifests do not. -/
theorem Layout.blocks_shift_and_units_nest :
    (∀ (layout : Layout) (steps : List LayoutStep), Balanced steps →
      (∀ text, .line text ∈ steps → IsLine text) →
      deepestFrom layout.level steps * layout.width < UInt64.size →
      layout.run steps =
        { layout with
          text := layout.text ++ ofLines
            ((Text.lines (Layout.run { width := layout.width } steps).text).map
              (Text.indented (layout.level * layout.width))) }) ∧
    (∀ level width, level * width < UInt64.size → Layout.columns level width = level * width) ∧
    (∀ (type : TypeDecl) (kept : List Candidate) (options : UnitOptions),
      IsLine options.header → (∀ path ∈ type.usings, IsLine path) →
        Balanced (type.unitSteps kept options) ∧
        type.unitText kept options =
          ofLines (type.preambleLines options ++ type.blockLines kept options.indentWidth) ∧
        Text.lines (type.unitText kept options) =
          type.preambleLines options ++
            (type.blockLines kept options.indentWidth).flatMap (pieces '\n') ∧
        (type.WritesLines kept →
          Text.lines (type.unitText kept options) =
            type.preambleLines options ++ type.blockLines kept options.indentWidth)) ∧
    ∀ (manifest : Manifest) (types : List TypeDecl), manifest.declarations = .ok types →
      ∀ type ∈ types, ∀ (tuples : TupleSupport) (kept : List Candidate),
        kept ⊆ type.candidates tuples →
          (∀ path ∈ type.usings, IsLine path) ∧ type.WritesLines kept := by
  refine ⟨fun layout _ => layout.run_balanced, fun _ _ => columns_eq,
    fun type kept options header usings => ?_,
    fun manifest types accepted type mem tuples kept => Manifest.writesLines accepted mem⟩
  have text := type.unitText_eq_ofLines kept options
  have cut : Text.lines (type.unitText kept options) =
      type.preambleLines options ++
        (type.blockLines kept options.indentWidth).flatMap (pieces '\n') := by
    rw [text, lines_ofLines, List.flatMap_append,
      flatMap_pieces (TypeDecl.isLine_of_mem_preambleLines header usings)]
  refine ⟨type.balanced_unitSteps kept options, text, cut, fun writes => ?_⟩
  rw [cut, flatMap_pieces (writes.isLine_of_mem_blockLines _)]

/-- A type in a namespace and within two other ones, made from a number or a text. -/
def tagEntry : TypeEntry :=
  { name := "Tag", namespacePath := some "Demo", usings := ["System"]
    enclosing := [{ name := "Outer", typeParameters := ["T"] }, { name := "Inner" }]
    constructors := [
      { parameters := [{ name := "number", type := "int" }] },
      { parameters := [{ name := "text", type := "string" }] }] }

/-- The lines of its unit, with one space for each level. -/
def tagLines : List String :=
  ["// <auto-generated/>", "#nullable enable", "using System;", "",
    "namespace Demo", "\x7b",
    " partial class Outer<T>", " \x7b",
    "  partial class Inner", "  \x7b",
    "   partial class Tag", "   \x7b",
    "    /// <summary>Implicitly converts the value to a new " ++
      "<see cref=\"global::Demo.Outer\x7bT\x7d.Inner.Tag\"/> instance.</summary>",
    "    public static implicit operator global::Demo.Outer<T>.Inner.Tag(int number) => " ++
      "new global::Demo.Outer<T>.Inner.Tag(number);",
    "",
    "    /// <summary>Implicitly converts the value to a new " ++
      "<see cref=\"global::Demo.Outer\x7bT\x7d.Inner.Tag\"/> instance.</summary>",
    "    public static implicit operator global::Demo.Outer<T>.Inner.Tag(string text) => " ++
      "new global::Demo.Outer<T>.Inner.Tag(text);",
    "   \x7d", "  \x7d", " \x7d", "\x7d"]

/-- Steps with a block and an indentation in it are laid out three levels further in, and the unit
of a type within two others has four blocks within each other, the outermost type first. -/
theorem Layout.blocks_shift_and_units_nest_tag :
    let steps : List LayoutStep :=
      [.line "a", .openBlock, .blank, .indent, .line "b", .dedent, .closeBlock]
    Balanced steps ∧
    Layout.run ⟨2, 3, "x\n"⟩ steps =
      ⟨2, 3, "x\n      a\n      \x7b\n\n          b\n      \x7d\n"⟩ ∧
    ∃ type, Manifest.declarations { types := [tagEntry] } = .ok [type] ∧
      Text.lines (type.unitText (type.candidates .native) { indentWidth := 1 }) = tagLines := by
  intro steps
  obtain ⟨shifts, -, nests, ofManifests⟩ := blocks_shift_and_units_nest
  have balanced : Balanced steps :=
    .line "a" (.block (.blank (.indented (.line "b" .nil) .nil)) .nil)
  refine ⟨balanced, ?shifted, ?unit⟩
  case shifted =>
    have single : ∀ text, .line text ∈ steps → IsLine text := by
      intro text mem
      simp only [steps, List.mem_cons, LayoutStep.line.injEq, reduceCtorEq, List.not_mem_nil,
        or_false, false_or] at mem
      rcases mem with rfl | rfl <;> decide
    exact (shifts ⟨2, 3, "x\n"⟩ steps balanced single (by decide)).trans (by decide +kernel)
  case unit =>
    obtain ⟨types, accepted, seen⟩ := toOption_map_eq_some.mp
      (by decide +kernel : (Manifest.declarations { types := [tagEntry] }).toOption.map
        (List.map fun type => type.preambleLines { indentWidth := 1 } ++
          type.blockLines (type.candidates .native) 1) = some [tagLines])
    obtain ⟨type, rfl, same⟩ := List.map_eq_singleton_iff.mp seen
    obtain ⟨usings, writes⟩ := ofManifests _ _ accepted type List.mem_cons_self .native
      (type.candidates .native) (List.Subset.refl _)
    have read := (nests type _ { indentWidth := 1 } (by decide +kernel) usings).2.2.2 writes
    exact ⟨type, accepted, read.trans same⟩

end ConversionSynthesis
