import Mathlib.Data.List.Infix
import ModelSchema.Proofs.Placement
import ModelSchema.Proofs.Scanning

set_option autoImplicit false

/-!
# Layout

Blanks and comments between the tokens of a text, and with them the positions of the tokens, carry
no meaning: a text that is written out again with other gaps is compiled to the same, or fails
alike.

## Main definitions

* `Gap`, `Separation` — what may stand between two tokens.
* `Layout` — a text with given tokens and some gap around each of them.

## Main results

* `Layout.exists_readFrom` — a text that is written out with gaps has the tokens that were written.
* `compile_ignores_layout` — layout carries no meaning.
-/

namespace ModelSchema

open Outcome Lexing

/-! ## Gaps -/

/-- A blank, a comment of a line with the line feed that ends it, or a closed comment of a block. -/
inductive Gap : List Char → Prop where
  | blank {c : Char} (blank : Text.isBlank c = true) : Gap [c]
  | lineComment {body : List Char} (inside : '\n' ∉ body) :
      Gap ('/' :: '/' :: (body ++ ['\n']))
  | blockComment {body : List Char} (inside : ¬ ['*', '/'] <:+: body) :
      Gap ('/' :: '*' :: (body ++ ['*', '/']))

/-- One or more gaps, one after another. -/
inductive Separation : List Char → Prop where
  | single {gap : List Char} (only : Gap gap) : Separation gap
  | cons {gap gaps : List Char} (first : Gap gap) (rest : Separation gaps) :
      Separation (gap ++ gaps)

/-- A text that has tokens, in order, and is separated before, between and after them. -/
inductive Layout : List Token → List Char → Prop where
  | nil {gap : List Char} (after : Separation gap) : Layout [] gap
  | cons {t : Token} {ts : List Token} {gap cs : List Char} (before : Separation gap)
      (rest : Layout ts cs) :
      Layout (t :: ts) (gap ++ (t.spelling ++ cs))

/-- No word goes on in a gap. -/
lemma Gap.stops {gap : List Char} (h : Gap gap) (cs : List Char) :
    Stops Piece.isWordPart (gap ++ cs) := by
  cases h with
  | blank h => exact stops_cons (Piece.isWordPart_eq_false_of_isBlank h) _
  | lineComment | blockComment => exact stops_cons (by decide) _

/-- No word goes on with a separation. -/
lemma Separation.stops {gap : List Char} (h : Separation gap) (cs : List Char) :
    Stops Piece.isWordPart (gap ++ cs) := by
  cases h with
  | single h => exact h.stops cs
  | cons first rest =>
    rw [List.append_assoc]
    exact first.stops _

/-- No word goes on with what is laid out. -/
lemma Layout.stops {ts : List Token} {cs : List Char} (h : Layout ts cs) :
    Stops Piece.isWordPart cs := by
  cases h with
  | nil after => simpa using after.stops []
  | cons before rest => exact before.stops _

/-- A gap is passed over. -/
lemma Gap.readFrom_append {gap : List Char} (h : Gap gap) (position : Position) (cs : List Char) :
    Token.readFrom position (gap ++ cs) = Token.readFrom (position.advance gap) cs := by
  cases h with
  | blank h => exact Token.readFrom_blank h cs
  | @lineComment body inside =>
    have hbody : ∀ c ∈ body, (c != '\n') = true := fun c hc => bne_iff_ne.2 fun e => inside (e ▸ hc)
    have hread : Piece.read? ('/' :: '/' :: (body ++ ['\n']) ++ cs) =
        some (.lineComment body, '\n' :: cs) :=
      Piece.read?_eq_some_iff.2 ⟨by simp [Piece.spelling], .lineComment hbody, stops_cons rfl cs⟩
    rw [Token.readFrom_of_trivia hread rfl, Token.readFrom_blank (by decide), ← List.cons_append,
      ← List.cons_append, Position.advance_append]
    rfl
  | @blockComment body inside =>
    have hread : Piece.read? ('/' :: '*' :: (body ++ ['*', '/']) ++ cs) =
        some (.blockComment body, cs) :=
      Piece.read?_eq_some_iff.2 ⟨rfl, .blockComment inside, fun _ _ => rfl⟩
    exact Token.readFrom_of_trivia hread rfl

/-- A separation is passed over, whatever it consists of. -/
lemma Separation.readFrom_append {gap : List Char} (h : Separation gap) (position : Position)
    (cs : List Char) :
    Token.readFrom position (gap ++ cs) = Token.readFrom (position.advance gap) cs := by
  induction h generalizing position with
  | single h => exact h.readFrom_append position cs
  | cons first _ ih => rw [List.append_assoc, first.readFrom_append, ih, Position.advance_append]

/-- A text that is written out with gaps has the tokens that were written.

**Proof sketch.** Induction on the tokens: the gap is passed over, and the token ends where the next
gap begins. -/
theorem Layout.exists_readFrom {ts : List Token} {cs : List Char} (h : Layout ts cs)
    (written : ∀ t ∈ ts, t.IsWritten) (position : Position) :
    ∃ us, Token.readFrom position cs = .ok (us ++ [⟨.endOfInput, "", position.advance cs⟩]) ∧
      us.map Token.unplaced = ts.map Token.unplaced := by
  induction h generalizing position with
  | @nil gap after =>
    refine ⟨[], ?_, rfl⟩
    have := after.readFrom_append position []
    rwa [List.append_nil, Token.readFrom_nil] at this
  | @cons t ts gap cs before rest ih =>
    obtain ⟨ht, hts⟩ := List.forall_mem_cons.1 written
    obtain ⟨us, hus, heq⟩ := ih hts ((position.advance gap).advance t.spelling)
    refine ⟨{ t with position := position.advance gap } :: us, ?_, congrArg (t.unplaced :: ·) heq⟩
    rw [before.readFrom_append, Token.readFrom_spelling ht rest.stops, hus, Position.advance_append,
      Position.advance_append]
    rfl

/-! ## Compilation of texts with other gaps -/

/-- **Layout carries no meaning.** A text that is written out again with other gaps before, between
and after its tokens has the same tokens. Whatever root is selected, the two texts have the same
root with the same schema and declare models that differ in their positions alone, or they fail with
errors that differ in their position alone.

**Proof sketch.** The reader and the resolver carry positions along, and never look at them. -/
theorem compile_ignores_layout (text other : String) (tokens : List Token)
    (h : Token.ofText text = .ok tokens) (written : Layout tokens.dropLast other.toList) :
    (∃ tokens', Token.ofText other = .ok tokens' ∧ tokens'.map Token.kind = tokens.map Token.kind ∧
      tokens'.map Token.text = tokens.map Token.text) ∧
    ∀ options, Agree CompileError.SameCause
      (fun c c' => c.root = c'.root ∧ c.schema = c'.schema ∧
        c.models.map Model.unplaced = c'.models.map Model.unplaced)
      (compile text options) (compile other options) := by
  rw [Token.ofText_eq_readFrom] at h
  obtain ⟨ts, rfl, hts⟩ := Token.exists_of_readFrom h
  rw [List.dropLast_concat] at written
  obtain ⟨us, hus, heq⟩ := written.exists_readFrom hts .start
  have hinside : ∀ t ∈ ts, t.kind ≠ .endOfInput := fun t ht => (hts t ht).kind_ne_endOfInput
  have hmodels : Agree CompileError.SameCause
      (fun models models' => models.map Model.unplaced = models'.map Model.unplaced)
      (Model.ofText text) (Model.ofText other) := by
    unfold Model.ofText
    rw [Token.ofText_eq_readFrom, Token.ofText_eq_readFrom, h, hus]
    exact Model.agree_ofTokens hinside rfl heq.symm rfl
  have hall (stop stop' : Position) : (us ++ [Token.mk .endOfInput "" stop]).map Token.unplaced =
      (ts ++ [Token.mk .endOfInput "" stop']).map Token.unplaced := by
    rw [List.map_append, List.map_append, heq]
    rfl
  refine ⟨⟨_, hus, Token.map_eq_of_unplaced (fun _ => rfl) (hall _ _),
    Token.map_eq_of_unplaced (fun _ => rfl) (hall _ _)⟩, fun options => ?_⟩
  rw [compile_eq, compile_eq]
  refine hmodels.bind fun models models' hm => ?_
  refine (agree_resolveRoot hm options.root).bind fun r r' hr => ?_
  rw [hr]
  exact .ok ⟨rfl, rfl, hm⟩

/-! ### A text without gaps where none are needed -/

namespace Compact

/-- A document in which a string looks like a comment. -/
def text : String :=
  "model A\x7bx:\"//\";\x7d"

/-- The tokens of the document. -/
def tokens : List Token :=
  [⟨.model, "model", ⟨1, 1⟩⟩, ⟨.identifier, "A", ⟨1, 7⟩⟩, ⟨.leftBrace, "\x7b", ⟨1, 8⟩⟩,
    ⟨.identifier, "x", ⟨1, 9⟩⟩, ⟨.colon, ":", ⟨1, 10⟩⟩, ⟨.string, "//", ⟨1, 11⟩⟩, ⟨.semicolon, ";",
    ⟨1, 15⟩⟩, ⟨.rightBrace, "\x7d", ⟨1, 16⟩⟩, ⟨.endOfInput, "", ⟨1, 17⟩⟩]

/-- The same document with gaps, and in one of them a comment with a quote. -/
def spaced : String :=
  "\n model/*\"*/A \x7b\tx : \"//\" ; \x7d // end\n"

/-- The spaced text is a layout of the tokens before the end. -/
lemma layout : Layout tokens.dropLast spaced.toList := by
  have blank : Separation [' '] := .single (.blank (by decide))
  have before : Separation ['\n', ' '] := .cons (.blank (c := '\n') (by decide)) blank
  have quote : Separation ['/', '*', '"', '*', '/'] :=
    .single (.blockComment (show ¬ ['*', '/'] <:+: ['"'] by decide))
  have tab : Separation ['\t'] := .single (.blank (by decide))
  have after : Separation [' ', '/', '/', ' ', 'e', 'n', 'd', '\n'] :=
    .cons (.blank (c := ' ') (by decide))
      (.single (.lineComment (show '\n' ∉ [' ', 'e', 'n', 'd'] by decide)))
  exact .cons before (.cons quote (.cons blank (.cons tab
    (.cons blank (.cons blank (.cons blank (.cons blank (.nil after))))))))

end Compact

/-- With gaps, the document has the same kinds of tokens and the same schema. -/
theorem compile_ignores_layout_compact :
    Token.ofText Compact.text = .ok Compact.tokens ∧
    Layout Compact.tokens.dropLast Compact.spaced.toList ∧
      (∃ tokens', Token.ofText Compact.spaced = .ok tokens' ∧
        tokens'.map Token.kind = Compact.tokens.map Token.kind) ∧
      compileSchema Compact.spaced {} =
        .ok [("x", { kind := .string, required := true, choices := some [.string "//"] })] := by
  have htokens : Token.ofText Compact.text = .ok Compact.tokens := by decide +kernel
  obtain ⟨⟨tokens', htokens', hkinds, -⟩, hagree⟩ :=
    compile_ignores_layout Compact.text Compact.spaced Compact.tokens htokens Compact.layout
  have hschema : compileSchema Compact.text {} =
      .ok [("x", { kind := .string, required := true, choices := some [.string "//"] })] := by
    decide +kernel
  obtain ⟨c, hc, hs⟩ := Outcome.map_eq_ok.1 hschema
  refine ⟨htokens, Compact.layout, ⟨tokens', htokens', hkinds⟩, ?_⟩
  have hsame := hagree {}
  rw [compileSchema]
  rw [hc] at hsame
  generalize compile Compact.spaced {} = x at hsame
  cases hsame with
  | ok hv => exact congrArg Except.ok (hv.2.1.symm.trans hs)

end ModelSchema
