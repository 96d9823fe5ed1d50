import Reindent.Proofs.Terminators

/-!
# Literals by index

A literal that begins in code is recognised by the bytes behind it and the bytes
ahead of it. Here the same is done by index into the line, with slices that have
no result unless they lie inside. They always do: each recogniser has a result at
every byte of every line, whether a literal is cut off there or a character is
cut in two, and the index that it answers with is never behind the end.
-/

namespace Reindent

-- ---------------------------------------------------------------------------
-- Slices
-- ---------------------------------------------------------------------------

section
variable {α : Type}

/-- The elements from `start` up to `stop`, if the list has them. -/
def slice? (xs : List α) (start stop : Nat) : Option (List α) :=
  if start ≤ stop ∧ stop ≤ xs.length then some ((xs.take stop).drop start) else none

theorem slice?_middle (front piece back : List α) :
    slice? (front ++ (piece ++ back)) front.length (front.length + piece.length) = some piece := by
  rw [slice?, if_pos (by simp), ← List.append_assoc, ← List.length_append, List.take_left,
    List.drop_left]

theorem slice?_front (front back : List α) :
    slice? (front ++ back) 0 front.length = some front := by
  simpa using slice?_middle [] front back

theorem slice?_back (front back : List α) :
    slice? (front ++ back) front.length (front ++ back).length = some back := by
  simpa using slice?_middle front back []

def rposition? (p : α → Bool) (xs : List α) : Option Nat :=
  (xs.reverse.findIdx? p).map (xs.length - 1 - ·)

theorem rposition?_reverse (p : α → Bool) (xs : List α) :
    rposition? (fun x => !p x) xs.reverse = (xs.dropWhile p).tail?.map List.length := by
  induction xs with
  | nil => rfl
  | cons x xs ih =>
    simp only [rposition?, List.reverse_reverse, List.length_reverse] at ih ⊢
    cases hx : p x with
    | true =>
      rw [List.dropWhile_cons_of_pos hx, ← ih, List.findIdx?_cons, hx]
      cases xs.findIdx? fun x => !p x with
      | none => rfl
      | some k => simp [Nat.sub_sub, Nat.add_comm]
    | false => simp [List.findIdx?_cons, hx]

/-- The word that ends in `last`: it begins behind the nearest element that is not part of
one. -/
theorem slice?_word (p : α → Bool) (last : α) (more back : List α) :
    slice? (more.reverse ++ last :: back)
        (((rposition? (fun x => !p x) more.reverse).map (· + 1)).getD 0) (more.length + 1) =
      some (last :: more.takeWhile p).reverse := by
  have hstart : ((rposition? (fun x => !p x) more.reverse).map (· + 1)).getD 0 =
      (more.dropWhile p).reverse.length := by
    rw [rposition?_reverse]
    cases more.dropWhile p <;> simp
  have hsplit := List.takeWhile_append_dropWhile (p := p) (l := more)
  have hpieces : more.reverse ++ last :: back =
      (more.dropWhile p).reverse ++ ((last :: more.takeWhile p).reverse ++ back) := by
    conv_lhs => rw [← hsplit, List.reverse_append]
    simp only [List.reverse_cons, List.append_assoc, List.singleton_append]
  have hstop : more.length + 1 =
      (more.dropWhile p).reverse.length + (last :: more.takeWhile p).reverse.length := by
    conv_lhs => rw [← hsplit]
    simp only [List.length_append, List.length_reverse, List.length_cons]
    omega
  rw [hstart, hstop, hpieces]
  exact slice?_middle _ _ _

end

namespace Literal

-- ---------------------------------------------------------------------------
-- What is behind an index
-- ---------------------------------------------------------------------------

def operandBefore? (bytes : List UInt8) (i : Nat) : Option Bool := do
  let front ← slice? bytes 0 i
  match rposition? (fun b => !Text.isBlankByte b) front with
  | none => return false
  | some p =>
    let last ← bytes[p]?
    if isOneOf ")]\x7d" last then return true
    else if !isIdentifier last then return false
    else
      let front ← slice? bytes 0 p
      let wordStart := ((rposition? (fun b => !isIdentifier b) front).map (· + 1)).getD 0
      let word ← slice? bytes wordStart (p + 1)
      return !valueKeywords.contains word

theorem operandBefore?_eq (before rest : List UInt8) :
    operandBefore? (before.reverse ++ rest) before.length = some (operandBefore before) := by
  have hfront : slice? (before.reverse ++ rest) 0 before.length = some before.reverse := by
    simpa using slice?_front before.reverse rest
  simp only [operandBefore?, operandBefore, hfront, rposition?_reverse, Option.bind_eq_bind,
    Option.bind_some]
  cases hdrop : before.dropWhile Text.isBlankByte with
  | nil => rfl
  | cons last more =>
    -- The last byte that is no blank stands at the index `more.length`.
    have hbytes : before.reverse ++ rest = more.reverse ++
        last :: ((before.takeWhile Text.isBlankByte).reverse ++ rest) := by
      conv_lhs => rw [← List.takeWhile_append_dropWhile (p := Text.isBlankByte) (l := before)]
      simp [hdrop]
    have hlast : (before.reverse ++ rest)[more.length]? = some last := by
      rw [hbytes, List.getElem?_append_right (by simp)]
      simp
    have hmore : slice? (before.reverse ++ rest) 0 more.length = some more.reverse := by
      rw [hbytes]
      simpa using slice?_front more.reverse _
    have hword := slice?_word isIdentifier last more
      ((before.takeWhile Text.isBlankByte).reverse ++ rest)
    rw [← hbytes] at hword
    simp only [List.tail?_cons, Option.map_some, hlast, Option.bind_some, hmore, hword]
    cases isOneOf ")]\x7d" last with
    | true => rfl
    | false =>
      cases hidentifier : isIdentifier last with
      | true => simp [List.takeWhile_cons_of_pos hidentifier]
      | false => rfl

def touches? (bytes : List UInt8) (i : Nat) : Option Bool :=
  if 0 < i then bytes[i - 1]?.map fun b => !Text.isBlankByte b else some false

theorem touches?_eq (before rest : List UInt8) : touches? (before.reverse ++ rest) before.length =
    some (before.head?.any fun b => !Text.isBlankByte b) := by
  cases before with
  | nil => rfl
  | cons last before => simp [touches?]

theorem getElem?_ahead (before : List UInt8) (b : UInt8) (after : List UInt8) (k : Nat) :
    (before.reverse ++ b :: after)[before.length + 1 + k]? = after[k]? := by
  have hle : before.reverse.length ≤ before.length + 1 + k := by
    rw [List.length_reverse]
    omega
  rw [List.getElem?_append_right hle, List.length_reverse, Nat.add_assoc,
    Nat.add_sub_cancel_left, Nat.add_comm, List.getElem?_cons_succ]

theorem head?_ahead (before : List UInt8) (b : UInt8) (after : List UInt8) :
    (before.reverse ++ b :: after)[before.length + 1]? = after.head? := by
  rw [List.head?_eq_getElem?]
  exact getElem?_ahead before b after 0

-- ---------------------------------------------------------------------------
-- Percent and character literals
-- ---------------------------------------------------------------------------

def percent? (bytes : List UInt8) (i : Nat) : Option (Option (UInt8 × Nat)) := do
  let typed := bytes[i + 1]?.any (isOneOf "qQwWiIrsx")
  let j := if typed then i + 2 else i + 1
  match bytes[j]? with
  | none => return none
  | some delimiter =>
    if !isOneOf "([\x7b<|!/^" delimiter then return none
    else
      let operand ← operandBefore? bytes i
      let touching ← touches? bytes i
      let accepted := if typed then !(touching && operand) else !operand
      return if accepted then some (delimiter, j + 1) else none

theorem percent?_eq (before : List UInt8) (b : UInt8) (after : List UInt8) :
    percent? (before.reverse ++ b :: after) before.length =
      some ((percent before after).map fun found => (found.1, before.length + 1 + found.2)) := by
  have hdelimiter (typed : Bool) : (before.reverse ++ b :: after)[if typed then before.length + 2
      else before.length + 1]? = (if typed then after.tail else after).head? := by
    cases typed with
    | true => simpa [List.head?_eq_getElem?] using getElem?_ahead before b after 1
    | false => exact head?_ahead before b after
  simp only [percent?, percent, head?_ahead, hdelimiter, operandBefore?_eq, touches?_eq,
    Option.bind_eq_bind, Option.bind_some]
  generalize after.head?.any (isOneOf "qQwWiIrsx") = typed
  generalize before.head?.any (fun b => !Text.isBlankByte b) = touching
  cases if typed then after.tail else after with
  | nil => rfl
  | cons delimiter later =>
    cases hopens : isOneOf "([\x7b<|!/^" delimiter with
    | false => simp [hopens]
    | true => cases typed <;> cases operandBefore before <;> cases touching <;> simp [hopens]

def character? (bytes : List UInt8) (i : Nat) : Option (Option Nat) := do
  let operand ← operandBefore? bytes i
  if operand then return none
  else
    match bytes[i + 1]? with
    | none => return none
    | some first =>
      if Text.isBlankByte first then return none
      else
        let stop := if first == '\\'.toUInt8 then min (i + 3) bytes.length else i + 2
        return if bytes[stop]?.any isIdentifier then none else some stop

theorem character?_eq (before : List UInt8) (b : UInt8) (after : List UInt8) :
    character? (before.reverse ++ b :: after) before.length =
      some ((character before after).map fun extra => before.length + 1 + extra) := by
  have hstop (escaped : Bool) :
      (if escaped then min (before.length + 3) (before.reverse ++ b :: after).length
        else before.length + 2) =
      before.length + 1 + (if escaped then min 2 after.length else 1) := by
    cases escaped with
    | true =>
      simp only [if_true, List.length_append, List.length_reverse, List.length_cons]
      omega
    | false => rfl
  simp only [character?, character, operandBefore?_eq, head?_ahead, hstop, getElem?_ahead,
    Option.bind_eq_bind, Option.bind_some]
  cases operandBefore before with
  | true => rfl
  | false =>
    cases after with
    | nil => rfl
    | cons first later =>
      simp only [List.head?_cons, Bool.false_eq_true, if_false]
      generalize (if first == '\\'.toUInt8 then min 2 (first :: later).length else 1) = taken
      cases Text.isBlankByte first with
      | true => rfl
      | false => cases (first :: later)[taken]?.any isIdentifier <;> rfl

-- ---------------------------------------------------------------------------
-- Here documents
-- ---------------------------------------------------------------------------

def terminatedBy? (indented : Bool) (bytes : List UInt8) (j : Nat) :
    Option (Option (HereDocument × Nat)) := do
  match bytes[j]? with
  | none => return none
  | some first =>
    if isOneOf "\"'`" first then
      let body ← slice? bytes (j + 1) bytes.length
      match body.findIdx? (· == first) with
      | none | some 0 => return none
      | some length =>
        let terminator ← slice? bytes (j + 1) (j + 1 + length)
        return some (⟨terminator, indented⟩, j + 1 + length + 1)
    else if isUpper first || (indented && (isLetter first || first == '_'.toUInt8)) then
      let rest ← slice? bytes j bytes.length
      let length := (rest.takeWhile isIdentifier).length
      let terminator ← slice? bytes j (j + length)
      return some (⟨terminator, indented⟩, j + length)
    else return none

theorem findIdx?_quote (quote : UInt8) (rest : List UInt8) : rest.findIdx? (· == quote) =
    if (rest.takeWhile (· != quote)).length = rest.length then none
    else some (rest.takeWhile (· != quote)).length := by
  induction rest with
  | nil => rfl
  | cons b rest ih =>
    by_cases hb : b = quote
    · simp [List.findIdx?_cons, hb]
    · have htake : (b :: rest).takeWhile (· != quote) = b :: rest.takeWhile (· != quote) :=
        List.takeWhile_cons_of_pos (bne_iff_ne.mpr hb)
      rw [List.findIdx?_cons, if_neg (by simpa using hb), ih, htake]
      by_cases hopen : (rest.takeWhile (· != quote)).length = rest.length <;> simp [hopen]

theorem terminatedBy?_eq (indented : Bool) (marks start : Nat) (front named : List UInt8)
    (h : front.length = start + marks) : terminatedBy? indented (front ++ named) front.length =
      some ((terminatedBy indented marks named).map fun found => (found.1, start + found.2)) := by
  cases named with
  | nil => simp [terminatedBy?, terminatedBy]
  | cons first rest =>
    have hfirst : (front ++ first :: rest)[front.length]? = some first := by simp
    have hbody : slice? (front ++ first :: rest) (front.length + 1)
        (front ++ first :: rest).length = some rest := by
      simpa using slice?_back (front ++ [first]) rest
    have hquoted : slice? (front ++ first :: rest) (front.length + 1)
        (front.length + 1 + (rest.takeWhile (· != first)).length) =
          some (rest.takeWhile (· != first)) := by
      simpa using slice?_middle (front ++ [first]) (rest.takeWhile (· != first))
        (rest.dropWhile (· != first))
    have hword : slice? (front ++ first :: rest) front.length
        (front.length + ((first :: rest).takeWhile isIdentifier).length) =
          some ((first :: rest).takeWhile isIdentifier) := by
      simpa using slice?_middle front ((first :: rest).takeWhile isIdentifier)
        ((first :: rest).dropWhile isIdentifier)
    simp only [terminatedBy?, terminatedBy, hfirst, hbody, slice?_back, hword, findIdx?_quote,
      Option.bind_eq_bind, Option.bind_some]
    cases isOneOf "\"'`" first with
    | true =>
      generalize rest.takeWhile (· != first) = terminator at hquoted ⊢
      by_cases hopen : terminator.length = rest.length
      case pos => simp [hopen]
      case neg =>
        cases terminator with
        | nil =>
          rw [if_neg hopen]
          rfl
        | cons b terminator =>
          have hindex : front.length + 1 + (terminator.length + 1) + 1 =
              start + (marks + (terminator.length + 1) + 2) := by omega
          simp only [List.length_cons] at hopen hquoted ⊢
          simp [hquoted, hopen, hindex]
    | false =>
      have hindex (n : Nat) : front.length + n = start + (marks + n) := by
        rw [h, Nat.add_assoc]
      cases isUpper first || (indented && (isLetter first || first == '_'.toUInt8)) with
      | false => rfl
      | true =>
        simp only [Bool.false_eq_true, if_false, if_true]
        rw [hindex]
        rfl

def hereDocument? (bytes : List UInt8) (start : Nat) : Option (Option (HereDocument × Nat)) :=
  let indented := bytes[start]?.any (isOneOf "-~")
  terminatedBy? indented bytes (if indented then start + 1 else start)

theorem hereDocument?_eq (front after : List UInt8) :
    hereDocument? (front ++ after) front.length =
      some ((hereDocument after).map fun found => (found.1, front.length + found.2)) := by
  cases after with
  | nil => simp [hereDocument?, hereDocument, terminatedBy?]
  | cons first rest =>
    have hfirst : (front ++ first :: rest)[front.length]? = some first := by simp
    rw [hereDocument_cons, hereDocument?, hfirst, Option.any_some]
    cases isOneOf "-~" first with
    | false => exact terminatedBy?_eq false 0 front.length front (first :: rest) rfl
    | true =>
      have hmarked := terminatedBy?_eq true 1 front.length (front ++ [first]) rest (by simp)
      simpa using hmarked

-- ---------------------------------------------------------------------------
-- Literals end on the line
-- ---------------------------------------------------------------------------

section
variable {before after : List UInt8} {extra : Nat}

theorem extra_le_of_percent {delimiter : UInt8}
    (h : percent before after = some (delimiter, extra)) : extra ≤ after.length := by
  unfold percent at h
  cases hrest : if after.head?.any (isOneOf "qQwWiIrsx") then after.tail else after with
  | nil => simp [hrest] at h
  | cons d later =>
    simp only [hrest] at h
    split at h
    case isFalse => simp at h
    case isTrue =>
      obtain ⟨-, rfl⟩ := Prod.mk.inj (Option.some.inj h)
      have hlength := congrArg List.length hrest
      cases htyped : after.head?.any (isOneOf "qQwWiIrsx") with
      | true =>
        simp only [htyped, if_true, List.length_tail, List.length_cons] at hlength ⊢
        omega
      | false =>
        simp only [htyped, Bool.false_eq_true, if_false, List.length_cons] at hlength ⊢
        omega

theorem extra_le_of_character (h : character before after = some extra) :
    extra ≤ after.length := by
  unfold character at h
  cases after with
  | nil => simp at h
  | cons first later =>
    simp only [Option.ite_none_left_eq_some, Option.some.injEq] at h
    obtain ⟨-, -, -, rfl⟩ := h
    split
    · exact Nat.min_le_right _ _
    · exact Nat.succ_pos _

theorem extra_le_of_hereDocument {document : HereDocument}
    (h : hereDocument after = some (document, extra)) : extra ≤ after.length := by
  obtain ⟨marks, named, taken, rfl, -, rfl, hnames⟩ := names_of_hereDocument h
  rw [List.length_append]
  exact Nat.add_le_add_left hnames.taken_le _

end

end Literal

end Reindent
