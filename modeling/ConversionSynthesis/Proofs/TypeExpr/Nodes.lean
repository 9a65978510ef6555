import ConversionSynthesis.Proofs.TypeExpr.Lexemes
import ConversionSynthesis.Proofs.TypeExpr.Nesting

/-! # The expressions within an expression

Every expression is listed with those it is made of, at any depth, and so are the names in it.
-/

namespace ConversionSynthesis

open Host

namespace TypeExpr

mutual

/-- The expressions within an expression, itself first. -/
def nodes : TypeExpr → List TypeExpr
  | named isGlobal segments span => named isGlobal segments span :: segmentsNodes segments
  | tuple elements span => tuple elements span :: elementsNodes elements
  | nullable inner span => nullable inner span :: inner.nodes
  | array element commas span => array element commas span :: element.nodes

def segmentsNodes : List Segment → List TypeExpr
  | [] => []
  | .mk _ arguments _ :: rest => argumentsNodes arguments ++ segmentsNodes rest

def elementsNodes : List Element → List TypeExpr
  | [] => []
  | .mk type _ :: rest => type.nodes ++ elementsNodes rest

def argumentsNodes : List TypeExpr → List TypeExpr
  | [] => []
  | argument :: rest => argument.nodes ++ argumentsNodes rest

end

theorem segmentsNodes_eq_flatMap (segments : List Segment) :
    segmentsNodes segments = segments.flatMap fun segment => argumentsNodes segment.arguments := by
  induction segments with
  | nil => rfl
  | cons segment rest ih =>
      cases segment
      rw [segmentsNodes, ih]
      rfl

theorem elementsNodes_eq_flatMap (elements : List Element) :
    elementsNodes elements = elements.flatMap fun element => element.type.nodes := by
  induction elements with
  | nil => rfl
  | cons element rest ih =>
      cases element
      rw [elementsNodes, ih]
      rfl

theorem argumentsNodes_eq_flatMap (arguments : List TypeExpr) :
    argumentsNodes arguments = arguments.flatMap nodes := by
  induction arguments with
  | nil => rfl
  | cons argument rest ih =>
      rw [argumentsNodes, ih]
      rfl

theorem head_mem_nodes : ∀ type : TypeExpr, type.head ∈ type.nodes
  | named _ _ _ => List.mem_cons_self
  | tuple _ _ => List.mem_cons_self
  | nullable inner _ => List.mem_cons_of_mem _ inner.head_mem_nodes
  | array element _ _ => List.mem_cons_of_mem _ element.head_mem_nodes

theorem nodes_subset_of_mem_parts : ∀ (whole : TypeExpr) {inner}, inner ∈ whole.parts →
    inner.nodes ⊆ whole.nodes
  | named _ segments _, inner, isPart => by
      obtain ⟨segment, mem, isArgument⟩ := List.mem_flatMap.mp isPart
      intro node listed
      have inArguments : node ∈ argumentsNodes segment.arguments := by
        rw [argumentsNodes_eq_flatMap]
        exact List.mem_flatMap.mpr ⟨inner, isArgument, listed⟩
      apply List.mem_cons_of_mem
      rw [segmentsNodes_eq_flatMap]
      exact List.mem_flatMap.mpr ⟨segment, mem, inArguments⟩
  | tuple elements _, inner, isPart => by
      obtain ⟨element, mem, rfl⟩ := List.mem_map.mp isPart
      intro node listed
      apply List.mem_cons_of_mem
      rw [elementsNodes_eq_flatMap]
      exact List.mem_flatMap.mpr ⟨element, mem, listed⟩
  | nullable type _, inner, isPart =>
      List.subset_cons_of_subset _ (type.nodes_subset_of_mem_parts isPart)
  | array type _ _, inner, isPart =>
      List.subset_cons_of_subset _ (type.nodes_subset_of_mem_parts isPart)

theorem AtLevel.nodes_subset {whole type : TypeExpr} {level : Nat}
    (occurs : AtLevel whole level type) : type.nodes ⊆ whole.nodes := by
  induction occurs with
  | whole => exact List.Subset.refl _
  | part isPart _ ih => exact List.Subset.trans ih (nodes_subset_of_mem_parts _ isPart)

/-- The names of a path, as written; an expression of another kind is none. -/
def path? : TypeExpr → Option (List String)
  | named _ segments _ => some (segments.map (·.name))
  | _ => none

/-- The dotted names within an expression, at any depth. -/
def paths (type : TypeExpr) : List (List String) :=
  type.nodes.filterMap path?

/-- The names that an expression adds to those of what it is made of. -/
def ownNames : TypeExpr → List String
  | named _ segments _ => segments.map Segment.name
  | tuple elements _ => elements.filterMap fun element => element.label.map (·.1)
  | nullable _ _ => []
  | array _ _ _ => []

/-- The segments and tuple labels within an expression, at any depth. -/
def names (type : TypeExpr) : List String :=
  type.nodes.flatMap ownNames

/-- No path and no tuple is empty, and names are as tokens have them; what is further in does not
matter. -/
def Formed : TypeExpr → Prop
  | named _ segments _ => segments ≠ [] ∧ ∀ segment ∈ segments, IsTokenName segment.name
  | tuple elements _ => elements ≠ []
  | nullable _ _ => True
  | array _ _ _ => True

end TypeExpr

end ConversionSynthesis
