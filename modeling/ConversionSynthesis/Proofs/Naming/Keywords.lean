import ConversionSynthesis.Proofs.Naming.Faults
import ConversionSynthesis.Proofs.Naming.Tuples

/-! # Reserved words within types

A reserved word may stand in a type only as a whole name, the keyword of a builtin type. Resolution
asks this of every name within an expression, and fails on account of a reserved word only where it
is not so. It does not ask for type arguments.
-/

namespace ConversionSynthesis

open Host

namespace TypeExpr

/-- In a name, a reserved word is the only segment, the keyword of a builtin type, and not sought
from the root. -/
def KeywordsWhole : TypeExpr → Prop
  | named isGlobal segments _ => ∀ segment ∈ segments, isReserved segment.name = true →
      isGlobal = false ∧ segments = [segment] ∧
        ∃ builtin, Builtin.ofKeyword? segment.name = some builtin
  | _ => True

/-- A segment of the name, at the place, is a reserved word that may not stand there. -/
def Misplaces (word : String) (place : Span) : TypeExpr → Prop
  | named isGlobal segments _ => ∃ segment ∈ segments, segment.name = word ∧ segment.span = place ∧
      Scope.mayName (!isGlobal && segments.length == 1) word = false
  | _ => False

end TypeExpr

theorem mayName_eq_true {isWhole : Bool} {written : String} :
    Scope.mayName isWhole written = true ↔ (isReserved written = true →
      isWhole = true ∧ ∃ builtin, Builtin.ofKeyword? written = some builtin) := by
  rw [Scope.mayName, Bool.or_eq_true, Bool.and_eq_true, Option.isSome_iff_exists,
    Bool.not_eq_true']
  cases isReserved written <;> simp

/-- A name whose segments may all stand where they do has its reserved words whole. -/
theorem keywordsWhole_named {isGlobal : Bool} {segments : List Segment} {span : Span} :
    (TypeExpr.named isGlobal segments span).KeywordsWhole ↔
      ∀ segment ∈ segments,
        Scope.mayName (!isGlobal && segments.length == 1) segment.name = true := by
  have alone {segment : Segment} (mem : segment ∈ segments) :
      (!isGlobal && segments.length == 1) = true ↔ isGlobal = false ∧ segments = [segment] := by
    rw [Bool.and_eq_true, Bool.not_eq_true', beq_iff_eq, List.length_eq_one_iff]
    refine and_congr_right fun _ => ⟨?_, fun only => ⟨segment, only⟩⟩
    rintro ⟨only, rfl⟩
    rw [List.mem_singleton.mp mem]
  refine forall₂_congr fun segment mem => ?_
  rw [mayName_eq_true, alone mem, and_assoc]

theorem TypeExpr.Misplaces.not_keywordsWhole {word : String} {place : Span} {node : TypeExpr}
    (misplaced : node.Misplaces word place) : ¬ node.KeywordsWhole := by
  cases node with
  | named isGlobal segments span =>
      obtain ⟨segment, mem, rfl, -, misplaced⟩ := misplaced
      intro whole
      rw [keywordsWhole_named.mp whole segment mem] at misplaced
      cases misplaced
  | tuple | nullable | array => exact misplaced.elim

namespace Scope

variable {scope : Scope}

/-! ## What resolves -/

theorem mayName_of_resolveSegments {isWhole : Bool} {segments : List Segment}
    {resolved : List ResolvedSegment}
    (succeeds : scope.resolveSegments isWhole segments = .ok resolved) :
    ∀ segment ∈ segments, mayName isWhole segment.name = true := by
  induction segments generalizing resolved with
  | nil => exact nofun
  | cons segment rest ih =>
      obtain ⟨name, arguments, span⟩ := segment
      obtain ⟨may, _, _, -, more, -⟩ := resolveSegments_cons_eq_ok.mp succeeds
      exact List.forall_mem_cons.mpr ⟨may, ih more⟩

theorem keywordsWhole_of_resolveType {expr : TypeExpr} {r : ResolvedType}
    (resolved : scope.resolveType expr = .ok r) : expr.KeywordsWhole := by
  cases expr with
  | named isGlobal segments span =>
      obtain ⟨parts, inside, -⟩ := resolveType_named_eq_ok.mp resolved
      exact keywordsWhole_named.mpr (mayName_of_resolveSegments inside)
  | tuple | nullable | array => trivial

/-- Without type arguments, a keyword is its builtin type, unless a type parameter has its name. -/
theorem resolveType_keyword {word : String} {builtin : Builtin} (place span : Span)
    (keyword : Builtin.ofKeyword? word = some builtin) (free : word ∉ scope.typeParameters) :
    scope.resolveType (.named false [.mk word [] place] span) =
      .ok (.builtin builtin word) := by
  have may : mayName true word = true := mayName_eq_true.mpr fun _ => ⟨rfl, builtin, keyword⟩
  refine resolveType_named_eq_ok.mpr ⟨[⟨word, []⟩], ?_, ?_⟩
  · exact resolveSegments_cons_eq_ok.mpr ⟨may, [], [], rfl, rfl, rfl⟩
  · simp [nameType, loneName?, free, keyword]

/-! ## What fails -/

/-- Resolution fails for a reserved word where a name within the expression misplaces it. -/
theorem misplaces_of_resolveType {word : String} {place : Span} {expr : TypeExpr}
    (failed : scope.resolveType expr = .error ⟨.reservedName word, place⟩) :
    ∃ node ∈ expr.nodes, node.Misplaces word place := by
  obtain ⟨node, inside, atFault⟩ := atFault_of_resolveType failed
  refine ⟨node, inside, ?_⟩
  cases node with
  | named isGlobal segments span =>
      obtain ⟨segment, mem, same, misplaced⟩ := atFault
      cases same
      exact ⟨segment, mem, rfl, rfl, misplaced⟩
  | tuple elements span =>
      obtain ⟨_, _, _, _, _, same⟩ := atFault
      cases same
  | nullable inner span =>
      obtain ⟨_, same⟩ := atFault
      cases same
  | array element commas span => exact atFault

/-! ## Every expression -/

/-- In an expression that resolves, a reserved word stands only as a whole name, the keyword of a
builtin type; without type arguments it denotes that type, unless a type parameter has its name. An
expression fails to resolve on account of a reserved word only if it stands elsewhere. -/
theorem reserved_words_whole (scope : Scope) (expr : TypeExpr) :
    (∀ type, scope.resolve expr = .ok type → ∀ isGlobal segments span,
      .named isGlobal segments span ∈ expr.nodes → ∀ segment ∈ segments,
        isReserved segment.name = true →
          isGlobal = false ∧ segments = [segment] ∧
          ∃ builtin, Builtin.ofKeyword? segment.name = some builtin ∧
            (segment.arguments = [] → segment.name ∉ scope.typeParameters →
              scope.resolve (.named isGlobal segments span) =
                .ok (ResolvedType.builtin builtin segment.name).type)) ∧
    ∀ word place, scope.resolve expr = .error ⟨.reservedName word, place⟩ →
      ∃ node ∈ expr.nodes, node.Misplaces word place ∧ ¬ node.KeywordsWhole := by
  constructor
  · intro type resolved isGlobal segments span mem segment isSegment reserved
    obtain ⟨r, succeeds, -⟩ := map_eq_ok.mp resolved
    obtain ⟨inner, resolvedNode⟩ := exists_resolveType_of_mem_nodes succeeds _ mem
    obtain ⟨rfl, rfl, builtin, keyword⟩ :=
      keywordsWhole_of_resolveType resolvedNode segment isSegment reserved
    refine ⟨rfl, rfl, builtin, keyword, fun plain free => ?_⟩
    obtain ⟨name, arguments, place⟩ := segment
    cases plain
    exact map_eq_ok.mpr ⟨_, resolveType_keyword place span keyword free, rfl⟩
  · intro word place failed
    obtain ⟨node, inside, misplaced⟩ := misplaces_of_resolveType (map_eq_error.mp failed)
    exact ⟨node, inside, misplaced, misplaced.not_keywordsWhole⟩

/-- A list of numbers, `List<int>`. -/
def numbers : TypeExpr :=
  .named false [.mk "List" [.named false [.mk "int" [] ⟨5, 8⟩] ⟨5, 8⟩] ⟨0, 9⟩] ⟨0, 9⟩

/-- A keyword behind a namespace, `System.int`. -/
def qualifiedKeyword : TypeExpr :=
  .named false [.mk "System" [] ⟨0, 6⟩, .mk "int" [] ⟨7, 10⟩] ⟨0, 10⟩

theorem reserved_words_whole_numbers :
    TypeExpr.parse "List<int>" = .ok numbers ∧ TypeExpr.parse "System.int" = .ok qualifiedKeyword ∧
      (∃ builtin, Builtin.ofKeyword? "int" = some builtin ∧
        ({} : Scope).resolve (.named false [.mk "int" [] ⟨5, 8⟩] ⟨5, 8⟩) =
          .ok (ResolvedType.builtin builtin "int").type) ∧
      ∃ node ∈ qualifiedKeyword.nodes, node.Misplaces "int" ⟨7, 10⟩ ∧ ¬ node.KeywordsWhole := by
  have resolved : ∃ type, ({} : Scope).resolve numbers = .ok type := ⟨_, rfl⟩
  have failed : ({} : Scope).resolve qualifiedKeyword = .error ⟨.reservedName "int", ⟨7, 10⟩⟩ := rfl
  obtain ⟨type, resolved⟩ := resolved
  have inside : .named false [.mk "int" [] ⟨5, 8⟩] ⟨5, 8⟩ ∈ numbers.nodes :=
    List.mem_cons_of_mem _ List.mem_cons_self
  obtain ⟨-, -, builtin, keyword, denotes⟩ := (reserved_words_whole {} numbers).1 type resolved
    false _ _ inside _ List.mem_cons_self (by decide)
  refine ⟨?_, ?_, ⟨builtin, keyword, denotes rfl List.not_mem_nil⟩,
    (reserved_words_whole {} qualifiedKeyword).2 _ _ failed⟩
  · with_unfolding_all rfl
  · with_unfolding_all rfl

/-- A keyword with a type argument, `int<string>`. -/
def appliedKeyword : TypeExpr :=
  .named false [.mk "int" [.named false [.mk "string" [] ⟨4, 10⟩] ⟨4, 10⟩] ⟨0, 11⟩] ⟨0, 11⟩

/-- A keyword with a type argument resolves, to no builtin type. -/
theorem reserved_word_applied :
    TypeExpr.parse "int<string>" = .ok appliedKeyword ∧ isReserved "int" = true ∧
      ({} : Scope).resolve appliedKeyword =
        .ok (.named "int<System.String>" "int<string>" .concrete) := by
  refine ⟨?_, by decide, ?_⟩
  · with_unfolding_all rfl
  · with_unfolding_all rfl

end Scope

end ConversionSynthesis
