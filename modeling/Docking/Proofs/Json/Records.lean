import Docking.Document
import Docking.Json.Value
import Docking.Proofs.Json.Quoted

/-!
# Records of texts are read back

A record whose members are texts is written as one line of JSON and read again as the same members
in the same order, with the same names. The two steps of reading are taken one after the other: the
words of the line are the marks and the strings that were written, and the machine that puts values
together goes from one member to the next.

## Main definitions

* `ofTexts`, `Document.ofTexts`: the record of some texts, as a value and as a document.
* `memberTokens`: the words that the members of a record are written with.

## Main results

* `readTokens_members`: the words of a record.
* `foldlM_members`: the value that the words make up.
* `parse?_ofTexts`: a record of texts is read as it was written.
-/

namespace Docking

/-- A record of texts that is to be written out. -/
def Document.ofTexts (members : List (String × String)) : Document :=
  .record (members.map fun m => (m.1, .text m.2))

namespace Json

/-- A record of texts that has been read. -/
def ofTexts (members : List (String × String)) : Json :=
  .record (members.map fun m => (some m.1, .text (some m.2)))

/-- The words of the members of a record, and of its end. -/
def memberTokens : List (String × String) → List Token
  | [] => [.closeRecord]
  | [m] => [.text (some m.1), .colon, .text (some m.2), .closeRecord]
  | m :: m' :: more =>
    .text (some m.1) :: .colon :: .text (some m.2) :: .comma :: memberTokens (m' :: more)

section Records

variable {c : Char} {token : Token} {rest after : List Char}

/-! ## Words -/

theorem readTokens_cons (hblank : isBlank c = false) (h : takeToken c rest = some (token, after)) :
    readTokens (c :: rest) = (readTokens after).map (token :: ·) := by
  rw [readTokens, if_neg (by simp [hblank])]
  split
  · next hnone =>
    rw [h] at hnone
    cases hnone
  · next token' after' hsome =>
    rw [h] at hsome
    cases hsome
    rfl

/-- A mark is a word of its own, whatever follows it. -/
theorem readTokens_mark (mark : Token) (h : mark? c = some mark) (hblank : isBlank c = false) :
    readTokens (c :: rest) = (readTokens rest).map (mark :: ·) :=
  readTokens_cons hblank (by rw [takeToken, h])

theorem readTokens_quoted (s : String) (rest : List Char) :
    readTokens ((quoted s).toList ++ rest) = (readTokens rest).map (.text (some s) :: ·) := by
  have hchars : (quoted s).toList ++ rest = '"' :: (escape s.toList ++ '"' :: rest) := by
    simp [quoted]
  rw [hchars]
  exact readTokens_cons (by decide) (takeToken_quoted s rest)

/-- The words that the members of a record are written with, up to its end. -/
theorem readTokens_members (members : List (String × String)) :
    readTokens (",".intercalate (Document.jsonMembers (members.map fun m => (m.1, .text m.2))) ++
      "\x7d").toList = some (memberTokens members) := by
  have hclose : readTokens ['\x7d'] = some [.closeRecord] := by
    rw [readTokens_mark .closeRecord (by decide) (by decide), readTokens]
    rfl
  induction members using memberTokens.induct with
  | case1 => exact hclose
  | case2 m =>
      have hchars : (",".intercalate (Document.jsonMembers [(m.1, .text m.2)]) ++ "\x7d").toList =
          (quoted m.1).toList ++ ':' :: ((quoted m.2).toList ++ ['\x7d']) := by
        simp [Document.jsonMembers, Document.json]
      rw [List.map_singleton, hchars, readTokens_quoted,
        readTokens_mark .colon (by decide) (by decide), readTokens_quoted, hclose]
      rfl
  | case3 m m' more ih =>
      let others := (m' :: more).map fun m => (m.1, Document.text m.2)
      have hchars : (",".intercalate (Document.jsonMembers ((m.1, .text m.2) :: others)) ++
          "\x7d").toList = (quoted m.1).toList ++ ':' :: ((quoted m.2).toList ++
            ',' :: (",".intercalate (Document.jsonMembers others) ++ "\x7d").toList) := by
        simp [others, Document.jsonMembers, Document.json, String.intercalate_cons_cons]
      rw [List.map_cons, hchars, readTokens_quoted,
        readTokens_mark .colon (by decide) (by decide), readTokens_quoted,
        readTokens_mark .comma (by decide) (by decide), ih]
      rfl

/-! ## Values -/

/-- The members of a record are put together in their order, behind those that are done. -/
theorem foldlM_members (members : List (String × String)) (frames : List Frame) (first : Bool)
    (done : List (Option String × Json)) (h : members = [] → first = true) :
    (memberTokens members).foldlM Reading.step ⟨.name first done, frames⟩ =
      some ⟨.after (.record (done.reverse ++
        members.map fun m => (some m.1, .text (some m.2)))), frames⟩ := by
  induction members using memberTokens.induct generalizing first done with
  | case1 =>
      rw [h rfl, List.map_nil, List.append_nil]
      rfl
  | case2 m =>
      rw [List.map_singleton, ← List.reverse_cons]
      cases first <;> rfl
  | case3 m m' more ih =>
      have hlist : done.reverse ++ (m :: m' :: more).map (fun m => (some m.1, .text (some m.2))) =
          ((some m.1, .text (some m.2)) :: done).reverse ++
            (m' :: more).map fun m => (some m.1, .text (some m.2)) := by
        simp
      rw [hlist]
      -- A name is taken at the beginning and behind a comma; only the end of a record asks which.
      cases first <;> exact ih false _ nofun

/-- A record of texts is read as it was written. -/
theorem parse?_ofTexts (members : List (String × String)) :
    parse? (Document.ofTexts members).json = some (ofTexts members) := by
  have hchars : (Document.ofTexts members).json.toList =
      '\x7b' :: (",".intercalate (Document.jsonMembers (members.map fun m => (m.1, .text m.2))) ++
        "\x7d").toList := by
    simp [Document.ofTexts, Document.json]
  have htokens : readTokens (Document.ofTexts members).json.toList =
      some (.openRecord :: memberTokens members) := by
    rw [hchars, readTokens_mark .openRecord (by decide) (by decide), readTokens_members]
    rfl
  have hread := foldlM_members members [] true [] fun _ => rfl
  rw [parse?, htokens, Option.bind_some, ofTokens?, List.foldlM_cons]
  show ((memberTokens members).foldlM Reading.step ⟨.name true [], []⟩).bind _ = _
  rw [hread]
  rfl

end Records

end Json

end Docking
