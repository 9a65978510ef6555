import ConversionSynthesis.Proofs.TypeExpr.ErrorPlaces

/-! # Spans of errors inside their text

Every syntax error has its span inside the text: the ends are in order, and each stands between two
characters. Errors of the lexer have the characters for their span that it stopped at, and those of
the parser run from one token to another, or stand at the end of the text.
-/

namespace ConversionSynthesis

open TypeExpr

/-- The span lies inside the text, and cuts no character of it. -/
structure Span.Inside (span : Span) (text : String) : Prop where
  ordered : span.start ≤ span.stop
  bounded : span.stop ≤ text.utf8ByteSize
  startIsValid : String.Pos.Raw.IsValid text ⟨span.start⟩
  stopIsValid : String.Pos.Raw.IsValid text ⟨span.stop⟩

namespace Span

/-- A span from the end of one piece of a text to the end of the next one lies inside the text. -/
theorem inside_append (front piece back : String) :
    (⟨front.utf8ByteSize, (front ++ piece).utf8ByteSize⟩ : Span).Inside
      (front ++ (piece ++ back)) where
  ordered := by
    rw [String.utf8ByteSize_append]
    exact Nat.le_add_right _ _
  bounded := by
    have whole : (front ++ piece ++ back).utf8ByteSize =
        (front ++ piece).utf8ByteSize + back.utf8ByteSize := String.utf8ByteSize_append
    rw [← String.append_assoc, whole]
    exact Nat.le_add_right _ _
  startIsValid := String.Pos.Raw.isValid_iff_exists_append.mpr ⟨front, piece ++ back, rfl, rfl⟩
  stopIsValid := String.Pos.Raw.isValid_iff_exists_append.mpr
    ⟨front ++ piece, back, String.append_assoc.symm, rfl⟩

theorem Cuts.inside {span : Span} {text piece : String} (cuts : span.Cuts text piece) :
    span.Inside text := by
  obtain ⟨-, front, back, rfl, start, stop⟩ := cuts
  obtain ⟨_, _⟩ := span
  subst start stop
  exact inside_append front piece back

theorem inside_whole (text : String) : (⟨0, text.utf8ByteSize⟩ : Span).Inside text := by
  have inside := inside_append "" text ""
  simpa using inside

theorem inside_end (text : String) :
    (⟨text.utf8ByteSize, text.utf8ByteSize⟩ : Span).Inside text := by
  have inside := inside_append text "" ""
  simpa using inside

/-- Characters in a row, by the width of what stands before them. -/
theorem inside_characters {text : String} {front piece back : List Char}
    (split : text.toList = front ++ (piece ++ back)) :
    (⟨Text.width front, Text.width front + Text.width piece⟩ : Span).Inside text := by
  have whole : text = .ofList front ++ (.ofList piece ++ .ofList back) := by
    rw [← String.ofList_append, ← String.ofList_append, ← split, String.ofList_toList]
  have inside := inside_append (.ofList front) (.ofList piece) (.ofList back)
  rwa [← whole, String.utf8ByteSize_append, Text.utf8ByteSize_ofList,
    Text.utf8ByteSize_ofList] at inside

/-- What runs from one token of a text to another lies inside the text. -/
theorem Covers.inside {text : String} {before own behind : List Token} {span : Span}
    (covers : span.Covers own) (lexed : Token.lex text = .ok (before ++ (own ++ behind))) :
    span.Inside text := by
  obtain ⟨piece, cuts, -⟩ := exists_stretch lexed covers
  exact cuts.inside

end Span

/-! ## Errors of the lexer -/

theorem scan_error_inside {source : String} {text : List Char} {offset : Nat} {error : SyntaxError}
    (front : List Char) (split : source.toList = front ++ text) (place : offset = Text.width front)
    (failed : Token.scan offset text = .error error) : error.span.Inside source := by
  fun_induction Token.scan offset text generalizing front with
  | case1 => cases failed
  | case2 offset c rest blank ih =>
      exact ih (front ++ [c]) (by simp [split]) (by simp [place]) failed
  | case3 offset c rest notBlank opens word span =>
      cases failed
      subst place
      have pieces : source.toList = front ++ (word ++ rest.dropWhile Host.continuesName) := by
        rw [split, List.cons_append, List.takeWhile_append_dropWhile]
      exact Span.inside_characters pieces
  | case4 offset c rest notBlank opens word span notMark =>
      next ih =>
        subst place
        refine ih (front ++ word) ?_ (Text.width_append _ _).symm (map_eq_error.mp failed)
        rw [split, List.append_assoc, List.cons_append, List.takeWhile_append_dropWhile]
  | case5 offset after notBlank closed ih =>
      refine ih (front ++ [':', ':']) (by simp [split]) ?_ (map_eq_error.mp failed)
      rw [place, Text.width_append]
      rfl
  | case6 offset rest alone notBlank closed =>
      cases failed
      subst place
      have pieces : source.toList = front ++ ([':'] ++ rest) := split
      exact Span.inside_characters pieces
  | case7 offset c rest notBlank closed notColon kind known ih =>
      refine ih (front ++ [c]) (by simp [split]) ?_ (map_eq_error.mp failed)
      rw [place, Text.width_append, Text.width_cons, (punctuation_apart known).2.2.2]
      rfl
  | case8 offset c rest notBlank closed notColon unknown =>
      cases failed
      subst place
      have pieces : source.toList = front ++ ([c] ++ rest) := split
      exact Span.inside_characters pieces

/-! ## Errors of the parser -/

theorem Marks.inside {text : String} {own rest : List Token} {span : Span}
    (lexed : Token.lex text = .ok (own ++ rest)) (marks : Marks text.utf8ByteSize own rest span) :
    span.Inside text := by
  cases marks with
  | ended => exact Span.inside_end text
  | @token next more first mem =>
      obtain ⟨before, mid, split⟩ := List.append_of_mem mem
      have covers : (⟨first.span.start, next.span.stop⟩ : Span).Covers (first :: mid) := by
        refine ⟨rfl, ?_⟩
        have last : (before ++ first :: mid).getLast? = some next := by
          rw [← split, List.getLast?_concat]
        rw [List.getLast?_append, List.getLast?_cons, Option.some_or] at last
        rw [List.getLast?_cons, last]
        rfl
      have tokens : own ++ next :: more = before ++ ((first :: mid) ++ more) := by
        rw [← List.append_assoc, ← split, List.append_assoc, List.singleton_append]
      rw [tokens] at lexed
      exact covers.inside lexed

theorem parse_error_inside {text : String} {error : SyntaxError}
    (failed : parse text = .error error) : error.span.Inside text := by
  unfold parse at failed
  split at failed
  · next lexed =>
      cases failed
      exact scan_error_inside [] rfl rfl lexed
  · next tokens lexed =>
      cases tokens with
      | nil =>
          cases failed
          exact Span.inside_whole text
      | cons token tokens =>
          obtain ⟨own, rest, split, marks, -⟩ := ofTokens_breaks_off (List.cons_ne_nil _ _) failed
          rw [split] at lexed
          exact marks.inside lexed

end ConversionSynthesis
