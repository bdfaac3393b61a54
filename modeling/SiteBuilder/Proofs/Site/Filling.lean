import SiteBuilder.Proofs.Site.Token

/-!
# Filling in tokens

A text is split at its tokens from left to right: between two tokens stands the longest text in which no
token starts. There is one such split, the reader of placeholders finds it, and rendering puts the value of
each token in its place. What stands between tokens stays, and what was put in is not looked at again.
-/

namespace SiteBuilder.Placeholder

/-! ## What the reader finds -/

/-- A key is read up to where it stops. -/
theorem readKey?_append (key : Key) {rest : List Char} (hrest : Stops isKeyPart rest) :
    readKey? (key.chars ++ rest) = some (key.chars, rest) := by
  rw [Key.chars, List.cons_append, readKey?, if_pos key.isKeyStart_first, key.rest.takeWhile_append hrest,
    key.rest.dropWhile_append hrest]

/-- What is read as a key is one. -/
theorem exists_key_of_readKey? {text chars rest : List Char} (h : readKey? text = some (chars, rest)) :
    ∃ key : Key, chars = key.chars ∧ text = key.chars ++ rest := by
  cases text with
  | nil => cases h
  | cons c text =>
    rw [readKey?] at h
    split at h
    · next hstart =>
      obtain ⟨rfl, rfl⟩ := Prod.mk.inj (Option.some.inj h)
      refine ⟨⟨c, Run.ofTakeWhile isKeyPart text, hstart⟩, rfl, ?_⟩
      exact congrArg (List.cons c) List.takeWhile_append_dropWhile.symm
    · cases h

/-- A fallback is read up to the brace behind it. -/
theorem readFallback_barred (fallback : Option (Run isFallbackPart)) (rest : List Char) :
    readFallback (barred fallback ++ '\x7d' :: rest) = (fallbackChars fallback, '\x7d' :: rest) := by
  cases fallback with
  | none => rfl
  | some fallback =>
    have hstop : Stops isFallbackPart ('\x7d' :: rest) := by simp [isFallbackPart]
    rw [barred, List.cons_append, readFallback, fallback.takeWhile_append hstop, fallback.dropWhile_append hstop]
    rfl

/-- What is read as a fallback is one, or there is none. -/
theorem exists_barred_of_readFallback {text chars rest : List Char} (h : readFallback text = (chars, rest)) :
    ∃ fallback, chars = fallbackChars fallback ∧ text = barred fallback ++ rest := by
  unfold readFallback at h
  split at h
  · next tail =>
    obtain ⟨rfl, rfl⟩ := Prod.mk.inj h
    refine ⟨some (Run.ofTakeWhile isFallbackPart tail), rfl, ?_⟩
    exact congrArg (List.cons '|') List.takeWhile_append_dropWhile.symm
  · obtain ⟨rfl, rfl⟩ := Prod.mk.inj h
    exact ⟨none, rfl, rfl⟩

/-- The blanks at the start of a text. -/
theorem exists_blanks (text : List Char) :
    ∃ blanks : Run Text.isBlank, text = blanks.chars ++ text.dropWhile Text.isBlank :=
  ⟨Run.ofTakeWhile Text.isBlank text, List.takeWhile_append_dropWhile.symm⟩

/-- A token in double braces is read whole. -/
theorem readDouble?_text (before : Run Text.isBlank) (key : Key) (after : Run Text.isBlank)
    (fallback : Option (Run isFallbackPart)) (rest : List Char) :
    readDouble? ((Token.double before key after fallback).text ++ rest) =
      some (⟨key.chars, Text.trimBy Text.isBlank (fallbackChars fallback)⟩, rest) := by
  simp only [Token.text, List.cons_append, List.append_assoc, List.nil_append, readDouble?]
  rw [before.dropWhile_append (Token.stops_key _ _), readKey?_append key (stops_blanks _ _ _)]
  dsimp only
  rw [after.dropWhile_append (stops_barred rfl rfl _ _), readFallback_barred]
  rfl

/-- What is read in double braces is a token. -/
theorem exists_double_of_readDouble? {text rest : List Char} {request : Request}
    (h : readDouble? text = some (request, rest)) :
    ∃ before key after fallback,
      request = ⟨key.chars, Text.trimBy Text.isBlank (fallbackChars fallback)⟩ ∧
        text = (Token.double before key after fallback).text ++ rest := by
  unfold readDouble? at h
  split at h
  case h_2 => cases h
  case h_1 tail =>
    split at h
    case h_2 => cases h
    case h_1 chars afterKey hkey =>
      split at h
      case h_2 => cases h
      case h_1 fallbackText left hfallback =>
        obtain ⟨rfl, rfl⟩ := Prod.mk.inj (Option.some.inj h)
        obtain ⟨before, hbefore⟩ := exists_blanks tail
        obtain ⟨key, rfl, htail⟩ := exists_key_of_readKey? hkey
        obtain ⟨after, hafter⟩ := exists_blanks afterKey
        obtain ⟨fallback, rfl, hbarred⟩ := exists_barred_of_readFallback hfallback
        refine ⟨before, key, after, fallback, rfl, ?_⟩
        rw [hbefore, htail, hafter, hbarred]
        simp [Token.text]

/-- A token in single braces is read whole. -/
theorem readSingle?_text (key : Key) (fallback : Option (Run isFallbackPart)) (rest : List Char) :
    readSingle? ((Token.single key fallback).text ++ rest) = some (⟨key.chars, fallbackChars fallback⟩, rest) := by
  simp only [Token.text, List.cons_append, List.append_assoc, List.nil_append, readSingle?]
  rw [readKey?_append key (stops_barred rfl rfl _ _)]
  dsimp only
  rw [readFallback_barred]
  rfl

/-- What is read in single braces is a token. -/
theorem exists_single_of_readSingle? {text rest : List Char} {request : Request}
    (h : readSingle? text = some (request, rest)) :
    ∃ key fallback, request = ⟨key.chars, fallbackChars fallback⟩ ∧
      text = (Token.single key fallback).text ++ rest := by
  unfold readSingle? at h
  split at h
  case h_2 => cases h
  case h_1 tail =>
    split at h
    case h_2 => cases h
    case h_1 chars afterKey hkey =>
      split at h
      case h_2 => cases h
      case h_1 fallbackText left hfallback =>
        obtain ⟨rfl, rfl⟩ := Prod.mk.inj (Option.some.inj h)
        obtain ⟨key, rfl, htail⟩ := exists_key_of_readKey? hkey
        obtain ⟨fallback, rfl, hbarred⟩ := exists_barred_of_readFallback hfallback
        refine ⟨key, fallback, rfl, ?_⟩
        rw [htail, hbarred]
        simp [Token.text]

/-- What the reader makes of a token. -/
def Token.segment : Token → Segment
  | .double _ key _ fallback => .request ⟨key.chars, Text.trimBy Text.isBlank (fallbackChars fallback)⟩
  | .single key fallback => .request ⟨key.chars, fallbackChars fallback⟩
  | .escaped key fallback => .escaped (Token.escaped key fallback).text

/-- A request stands for what fills its key. -/
theorem value_request (key : Key) (fallback : List Char) (answers : AnswerSet) :
    (Request.mk key.chars fallback).value answers = key.fill answers fallback := by
  unfold Request.value AnswerSet.display? Key.fill
  cases answers.get? (String.ofList key.chars) <;> rfl

/-- The reader gives a token the text that takes its place. -/
theorem Token.text_segment (token : Token) (answers : AnswerSet) :
    token.segment.text answers = token.value answers := by
  cases token with
  | double before key after fallback => exact value_request key _ answers
  | single key fallback => exact value_request key _ answers
  | escaped key fallback => rfl

/-- A token at the start of a text is the first segment. -/
theorem nextSegment_of_token {c : Char} {cs rest : List Char} {token : Token}
    (h : c :: cs = token.text ++ rest) : nextSegment c cs = (token.segment, rest) := by
  unfold nextSegment read?
  cases token with
  | double before key after fallback =>
    rw [h, readDouble?_text]
    rfl
  | single key fallback =>
    have hdouble : readDouble? (c :: cs) = none := by
      by_contra hfound
      obtain ⟨⟨request, rest'⟩, hfound⟩ := Option.ne_none_iff_exists'.mp hfound
      obtain ⟨before, key', after, fallback', -, htext⟩ := exists_double_of_readDouble? hfound
      cases (Token.text_append_inj (h.symm.trans htext)).1
    rw [hdouble]
    dsimp only
    rw [h, readSingle?_text]
    rfl
  | escaped key fallback =>
    obtain ⟨rfl, rfl⟩ : c = '$' ∧ cs = (Token.single key fallback).text ++ rest := List.cons.inj h
    have hplain : readDouble? ('$' :: ((Token.single key fallback).text ++ rest)) = none ∧
        readSingle? ('$' :: ((Token.single key fallback).text ++ rest)) = none := ⟨rfl, rfl⟩
    have htaken : ((Token.single key fallback).text ++ rest).take
        (((Token.single key fallback).text ++ rest).length - rest.length) = (Token.single key fallback).text := by
      rw [List.length_append, Nat.add_sub_cancel, List.take_left]
    rw [hplain.1]
    dsimp only
    rw [hplain.2]
    dsimp only
    rw [if_pos rfl, readSingle?_text]
    dsimp only
    rw [htaken]
    rfl

/-- The first segment of a text is the token it starts with, or else its first character. -/
theorem nextSegment_cases (c : Char) (cs : List Char) :
    (∃ token : Token, c :: cs = token.text ++ (nextSegment c cs).2 ∧ (nextSegment c cs).1 = token.segment) ∨
      nextSegment c cs = (.char c, cs) ∧ ∀ token : Token, ¬token.text <+: c :: cs := by
  by_cases hstarts : ∃ token : Token, token.text <+: c :: cs
  · obtain ⟨token, rest, htext⟩ := hstarts
    left
    rw [nextSegment_of_token htext.symm]
    exact ⟨token, htext.symm, rfl⟩
  · right
    refine ⟨?_, fun token htoken => hstarts ⟨token, htoken⟩⟩
    have hdouble : readDouble? (c :: cs) = none := by
      by_contra hfound
      obtain ⟨⟨request, rest⟩, hfound⟩ := Option.ne_none_iff_exists'.mp hfound
      obtain ⟨before, key, after, fallback, -, htext⟩ := exists_double_of_readDouble? hfound
      exact hstarts ⟨_, rest, htext.symm⟩
    have hsingle : readSingle? (c :: cs) = none := by
      by_contra hfound
      obtain ⟨⟨request, rest⟩, hfound⟩ := Option.ne_none_iff_exists'.mp hfound
      obtain ⟨key, fallback, -, htext⟩ := exists_single_of_readSingle? hfound
      exact hstarts ⟨_, rest, htext.symm⟩
    unfold nextSegment read?
    rw [hdouble]
    dsimp only
    rw [hsingle]
    dsimp only
    split
    · next hdollar =>
      cases hfound : readSingle? cs with
      | none => rfl
      | some found =>
        obtain ⟨key, fallback, -, htext⟩ := exists_single_of_readSingle? hfound
        exact absurd ⟨.escaped key fallback, found.2, by rw [hdollar, htext]; rfl⟩ hstarts
    · rfl

/-! ## Splits -/

/-- A text taken apart: what stands before the first token, and each token with what stands behind it. -/
structure Split where
  first : List Char
  rest : List (Token × List Char)

/-- The text of tokens with what stands behind each of them. -/
def textFrom (rest : List (Token × List Char)) : List Char :=
  rest.flatMap fun (token, plain) => token.text ++ plain

/-- No token starts in `plain` where `rest` follows it. -/
def TokenFree (plain rest : List Char) : Prop :=
  ∀ before inside : List Char, plain = before ++ inside → inside ≠ [] →
    ∀ token : Token, ¬token.text <+: inside ++ rest

/-- No token starts in `plain` or between later tokens. -/
def TokenFreeFrom (plain : List Char) : List (Token × List Char) → Prop
  | [] => TokenFree plain []
  | (token, next) :: rest => TokenFree plain (textFrom ((token, next) :: rest)) ∧ TokenFreeFrom next rest

namespace Split

/-- The text that was taken apart. -/
def text (split : Split) : List Char := split.first ++ textFrom split.rest

/-- The text with the value of each token in its place. -/
def filled (split : Split) (answers : AnswerSet) : List Char :=
  split.first ++ split.rest.flatMap fun (token, plain) => token.value answers ++ plain

/-- The split takes a text apart so that no token starts outside the tokens. -/
def Of (split : Split) (source : List Char) : Prop :=
  split.text = source ∧ TokenFreeFrom split.first split.rest

end Split

/-- A character where no token starts may come before a text without tokens. -/
theorem TokenFree.cons {c : Char} {plain rest : List Char} (h : TokenFree plain rest)
    (hc : ∀ token : Token, ¬token.text <+: c :: (plain ++ rest)) : TokenFree (c :: plain) rest := by
  intro before inside hplain hinside token
  cases before with
  | nil =>
    obtain rfl : c :: plain = inside := hplain
    exact hc token
  | cons c' before => exact h before inside (List.cons.inj hplain).2 hinside token

/-- Where no token starts in a text, none starts behind its first character. -/
theorem TokenFree.of_cons {c : Char} {plain rest : List Char} (h : TokenFree (c :: plain) rest) :
    TokenFree plain rest := by
  intro before inside hplain
  exact h (c :: before) inside (congrArg (List.cons c) hplain)

/-- What begins with a character where no token may start does not begin with a token. -/
theorem TokenFree.textFrom_ne {c : Char} {plain tail : List Char} (h : TokenFree (c :: plain) tail)
    (rest : List (Token × List Char)) : textFrom rest ≠ c :: (plain ++ tail) := by
  intro htext
  cases rest with
  | nil => cases htext
  | cons pair rest =>
    obtain ⟨token, next⟩ := pair
    refine h [] (c :: plain) rfl (List.cons_ne_nil c plain) token ⟨next ++ textFrom rest, ?_⟩
    rw [← List.append_assoc]
    exact htext

/-- A text without tokens is told from the tokens behind it. -/
theorem TokenFree.append_inj {plain plain' : List Char} {rest rest' : List (Token × List Char)}
    (h : TokenFree plain (textFrom rest)) (h' : TokenFree plain' (textFrom rest'))
    (htext : plain ++ textFrom rest = plain' ++ textFrom rest') :
    plain = plain' ∧ textFrom rest = textFrom rest' := by
  induction plain generalizing plain' with
  | nil =>
    cases plain' with
    | nil => exact ⟨rfl, htext⟩
    | cons c plain' => exact absurd htext (h'.textFrom_ne rest)
  | cons c plain ih =>
    cases plain' with
    | nil => exact absurd htext.symm (h.textFrom_ne rest')
    | cons c' plain' =>
      obtain ⟨rfl, hafter⟩ := List.cons.inj htext
      obtain ⟨rfl, hrest⟩ := ih h.of_cons h'.of_cons hafter
      exact ⟨rfl, hrest⟩

/-- Where no token starts between tokens, none starts before the first. -/
theorem TokenFreeFrom.tokenFree {plain : List Char} {rest : List (Token × List Char)}
    (h : TokenFreeFrom plain rest) : TokenFree plain (textFrom rest) := by
  cases rest with
  | nil => exact h
  | cons pair rest => exact h.1

/-- Two splits of a text into tokens and texts without tokens are the same. -/
theorem TokenFreeFrom.unique {plain plain' : List Char} {rest rest' : List (Token × List Char)}
    (h : TokenFreeFrom plain rest) (h' : TokenFreeFrom plain' rest')
    (htext : plain ++ textFrom rest = plain' ++ textFrom rest') : plain = plain' ∧ rest = rest' := by
  induction rest generalizing plain plain' rest' with
  | nil =>
    obtain ⟨hplain, hrest⟩ := h.tokenFree.append_inj h'.tokenFree htext
    cases rest' with
    | nil => exact ⟨hplain, rfl⟩
    | cons pair' rest' => exact absurd hrest.symm (by simp [textFrom, Token.text_ne_nil])
  | cons pair rest ih =>
    obtain ⟨hplain, hrest⟩ := h.tokenFree.append_inj h'.tokenFree htext
    cases rest' with
    | nil => exact absurd hrest (by simp [textFrom, Token.text_ne_nil])
    | cons pair' rest' =>
      obtain ⟨token, next⟩ := pair
      obtain ⟨token', next'⟩ := pair'
      have hpairs : token.text ++ (next ++ textFrom rest) = token'.text ++ (next' ++ textFrom rest') := by
        rw [← List.append_assoc, ← List.append_assoc]
        exact hrest
      obtain ⟨rfl, htail⟩ := Token.text_append_inj hpairs
      obtain ⟨rfl, rfl⟩ := ih h.2 h'.2 htail
      exact ⟨hplain, rfl⟩

/-- The segments of a text are those of a split of it. -/
theorem exists_split (source : List Char) :
    ∃ split : Split, split.Of source ∧
      ∀ answers, (segments source).flatMap (Segment.text answers) = split.filled answers := by
  induction source using segments.induct with
  | case1 =>
    refine ⟨⟨[], []⟩, ⟨rfl, ?_⟩, fun _ => by simp [segments, Split.filled]⟩
    intro before inside hplain hinside
    exact absurd (List.append_eq_nil_iff.mp hplain.symm).2 hinside
  | case2 c cs ih =>
    obtain ⟨split, ⟨htext, hfree⟩, hfilled⟩ := ih
    rcases nextSegment_cases c cs with ⟨token, hsource, hsegment⟩ | ⟨hsegment, hnone⟩
    · refine ⟨⟨[], (token, split.first) :: split.rest⟩, ⟨?_, ?_, hfree⟩, fun answers => ?_⟩
      · rw [hsource, ← htext]
        simp [Split.text, textFrom]
      · intro before inside hplain hinside
        exact absurd (List.append_eq_nil_iff.mp hplain.symm).2 hinside
      · rw [segments, List.flatMap_cons, hsegment, token.text_segment, hfilled]
        simp [Split.filled]
    · rw [hsegment] at htext hfilled
      refine ⟨⟨c :: split.first, split.rest⟩, ⟨congrArg (List.cons c) htext, ?_⟩, fun answers => ?_⟩
      · have hstart : ∀ token : Token, ¬token.text <+: c :: (split.first ++ textFrom split.rest) := by
          rw [show split.first ++ textFrom split.rest = cs from htext]
          exact hnone
        cases hrest : split.rest with
        | nil =>
          rw [hrest] at hfree hstart
          exact TokenFree.cons hfree hstart
        | cons pair rest =>
          rw [hrest] at hfree hstart
          exact ⟨TokenFree.cons hfree.1 hstart, hfree.2⟩
      · rw [segments, List.flatMap_cons, hsegment, hfilled]
        rfl

/-- Every text has exactly one split into tokens and texts in which no token starts. Rendering it puts the
value of each token in the place of the token and keeps the texts between them. -/
theorem render_fills_unique_split (source : String) :
    ∃ split : Split, split.Of source.toList ∧ (∀ other : Split, other.Of source.toList → other = split) ∧
      ∀ answers, (render source answers).toList = split.filled answers := by
  obtain ⟨split, hsplit, hfilled⟩ := exists_split source.toList
  refine ⟨split, hsplit, fun other hother => ?_, fun answers => ?_⟩
  · obtain ⟨hfirst, hrest⟩ := hother.2.unique hsplit.2 (hother.1.trans hsplit.1.symm)
    cases split
    cases other
    cases hfirst
    cases hrest
    rfl
  · rw [render, String.toList_ofList]
    exact hfilled answers

end SiteBuilder.Placeholder
