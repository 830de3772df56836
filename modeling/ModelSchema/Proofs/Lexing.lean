import Mathlib.Data.List.TakeWhile

set_option autoImplicit false

/-!
# Tokens of what is written

A text is cut into tokens from left to right, and a token goes on as long as it can. So what is
written has the same tokens wherever it stands, if its last token does not go on in what follows.

## Main definitions

* `Lexing.Stops` — a token does not go on in a text.
* `Lexing.Writes` — characters have given tokens, wherever they stand.

## Main results

* `Lexing.Writes.append` — what is written piece by piece has the tokens of the pieces.
* `Lexing.Writes.all` — the tokens of a whole text.
* `Lexing.Writes.run` — a token that goes on as long as it can.
-/

namespace ModelSchema.Lexing

variable {Token : Type} {all? : List Char → Option (List Token)} {goesOn : Char → Bool}

/-- No token goes on at the start of a text, where `goesOn` tells the characters on which one
might. -/
def Stops (goesOn : Char → Bool) (rest : List Char) : Prop :=
  ∀ c, rest.head? = some c → goesOn c = false

/-- Nothing goes on at the end. -/
lemma stops_nil : Stops goesOn [] :=
  nofun

/-- Nothing goes on where the first character does not. -/
lemma stops_cons {c : Char} (h : goesOn c = false) (cs : List Char) : Stops goesOn (c :: cs) := by
  rintro d ⟨⟩
  exact h

/-- Nothing goes on with two parts when it does with neither of them. -/
lemma stops_append {cs ds : List Char} (h : Stops goesOn cs) (h' : Stops goesOn ds) :
    Stops goesOn (cs ++ ds) := by
  cases cs with
  | nil => exact h'
  | cons c cs => exact stops_cons (h c rfl) _

/-- What goes on has been dropped. -/
lemma stops_dropWhile (goesOn : Char → Bool) (cs : List Char) :
    Stops goesOn (cs.dropWhile goesOn) := by
  intro c hc
  have hnot := List.head?_dropWhile_not goesOn cs
  rwa [hc] at hnot

/-- Characters are cut into tokens, whatever follows them that no token goes on in. -/
def Writes (all? : List Char → Option (List Token)) (goesOn : Char → Bool) (cs : List Char)
    (ts : List Token) : Prop :=
  ∀ rest, Stops goesOn rest → all? (cs ++ rest) = (all? rest).map (ts ++ ·)

namespace Writes

variable {c : Char} {cs ds : List Char} {ts us : List Token} {t : Token}

/-- The empty text writes no tokens. -/
lemma nil : Writes all? goesOn [] [] :=
  fun _ _ => by simp

/-- A character that is passed over. -/
lemma gap (h : ∀ cs, all? (c :: cs) = all? cs) (hw : Writes all? goesOn cs ts) :
    Writes all? goesOn (c :: cs) ts :=
  fun rest hrest => by rw [List.cons_append, h, hw rest hrest]

/-- A character that is a token. -/
lemma mark (h : ∀ cs, all? (c :: cs) = (all? cs).map (t :: ·)) (hw : Writes all? goesOn cs ts) :
    Writes all? goesOn (c :: cs) (t :: ts) := by
  intro rest hrest
  rw [List.cons_append, h, hw rest hrest, Option.map_map]
  rfl

/-- One text after another that does not go on with its last token. -/
lemma append (h : Writes all? goesOn cs ts) (hstops : ∀ rest, Stops goesOn (ds ++ rest))
    (h' : Writes all? goesOn ds us) : Writes all? goesOn (cs ++ ds) (ts ++ us) := by
  intro rest hrest
  rw [List.append_assoc, h _ (hstops rest), h' rest hrest, Option.map_map]
  congr 1
  funext vs
  simp

/-- The tokens of a whole text. -/
lemma all (h : Writes all? goesOn cs ts) (hnil : all? [] = some []) : all? cs = some ts := by
  have hall := h [] stops_nil
  rwa [hnil, Option.map_some, List.append_nil, List.append_nil] at hall

end Writes

/-- What satisfies a test, up to the first character that does not, is taken and dropped
together. -/
lemma takeWhile_append_of_stops {goesOn : Char → Bool} {cs rest : List Char}
    (hcs : ∀ c ∈ cs, goesOn c = true) (hrest : Stops goesOn rest) :
    (cs ++ rest).takeWhile goesOn = cs ∧ (cs ++ rest).dropWhile goesOn = rest := by
  rw [List.takeWhile_append_of_pos hcs, List.dropWhile_append_of_pos hcs]
  cases rest with
  | nil => simp
  | cons d ds => simp [hrest d rfl]

/-- A character and the run of those that satisfy a test are a token, if a token goes on in all of
them. -/
lemma Writes.run {test : Char → Bool} {token : List Char → Token} {c : Char} {cs : List Char}
    (h : ∀ rest,
        all? (c :: rest) = (all? (rest.dropWhile test)).map (token (c :: rest.takeWhile test) :: ·))
    (hstops : ∀ d, goesOn d = false → test d = false) (hcs : ∀ d ∈ cs, test d = true) :
    Writes all? goesOn (c :: cs) [token (c :: cs)] := by
  intro rest hrest
  have hends : Stops test rest := fun d hd => hstops d (hrest d hd)
  obtain ⟨htake, hdrop⟩ := takeWhile_append_of_stops hcs hends
  rw [List.cons_append, h, htake, hdrop]
  rfl

end ModelSchema.Lexing
