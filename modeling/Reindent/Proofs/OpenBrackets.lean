import Reindent.Proofs.BracketStack

/-!
# Open brackets of one kind

The search for the nearest open bracket of a kind goes upwards and counts the
closers that still look for their openers. Run forwards over the bytes of
code, it is a stack: an opener of the kind is put on it and a closer takes the
innermost bracket off, if there is one. The search finds the top of that stack,
for every document and every point. Brackets of the other kinds play no part,
so this holds of text that is not well nested too.

A bracket goes on the stack when its own byte is passed and never again. So a
bracket that is open before a point is open before every point between its
own place and that one.
-/

namespace Reindent

/-- What a byte of code does to the open brackets of one kind, the innermost
first. A closer that meets no bracket is passed over. -/
def Bracket.step (kind : Bracket) (stack : List Position) (byte : Position × UInt8) :
    List Position :=
  if byte.2 = kind.opener.toUInt8 then byte.1 :: stack
  else if byte.2 = kind.closer.toUInt8 then stack.tail
  else stack

def Document.openOf (doc : Document) (kind : Bracket) (point : Position) : List Position :=
  (doc.codeBytesBefore point).foldl kind.step []

-- ---------------------------------------------------------------------------
-- Bytes and bracket characters
-- ---------------------------------------------------------------------------

namespace Bracket

variable {kind : Bracket} {byte : Position × UInt8} {bytes : List (Position × UInt8)}
  {stack : List Position}

theorem step_of_site {site : BracketSite} (h : bracketSite? byte = some site) :
    kind.step stack byte = kindStep kind stack site := by
  obtain ⟨position, char⟩ := site
  obtain ⟨rfl, other, rfl | rfl⟩ := bracketSite?_eq_some h <;> cases kind <;> cases other <;> rfl

theorem step_of_none (h : bracketSite? byte = none) : kind.step stack byte = stack := by
  obtain ⟨position, b⟩ := byte
  have hopener : b ≠ kind.opener.toUInt8 := by
    rintro rfl
    have hsite : bracketSite? (position, kind.opener.toUInt8) = some ⟨position, kind.opener⟩ := by
      cases kind <;> rfl
    simp [hsite] at h
  have hcloser : b ≠ kind.closer.toUInt8 := by
    rintro rfl
    have hsite : bracketSite? (position, kind.closer.toUInt8) = some ⟨position, kind.closer⟩ := by
      cases kind <;> rfl
    simp [hsite] at h
  simp [step, hopener, hcloser]

theorem foldl_step_eq (kind : Bracket) (bytes : List (Position × UInt8)) (stack : List Position) :
    bytes.foldl kind.step stack = (bytes.filterMap bracketSite?).foldl (kindStep kind) stack := by
  induction bytes generalizing stack with
  | nil => rfl
  | cons byte rest ih =>
    cases hsite : bracketSite? byte with
    | none => simp [hsite, step_of_none hsite, ih]
    | some site => simp [hsite, step_of_site hsite, ih]

theorem mem_foldl_step {position : Position} (h : position ∈ bytes.foldl kind.step stack) :
    position ∈ stack ∨ ∃ byte ∈ bytes, byte.1 = position := by
  induction bytes generalizing stack with
  | nil => exact .inl h
  | cons byte rest ih =>
    rcases ih h with hstack | ⟨later, hmem, hposition⟩
    · simp only [step] at hstack
      split at hstack
      · rcases List.mem_cons.mp hstack with rfl | hstack
        · exact .inr ⟨byte, List.mem_cons_self, rfl⟩
        · exact .inl hstack
      · split at hstack
        · exact .inl (List.mem_of_mem_tail hstack)
        · exact .inl hstack
    · exact .inr ⟨later, List.mem_cons_of_mem _ hmem, hposition⟩

end Bracket

namespace Document

variable {doc : Document} {kind : Bracket} {point earlier position : Position}

theorem anchor?_eq_head? (doc : Document) (kind : Bracket) (point : Position) :
    doc.anchor? kind point = (doc.openOf kind point).head? := by
  rw [anchor?, unclosed?_eq_getElem?, bracketSitesBefore_eq, openOf, Bracket.foldl_step_eq,
    List.head?_eq_getElem?]

theorem before_of_mem_openOf (h : position ∈ doc.openOf kind point) :
    position.isBefore (doc.clamp point) = true ∧ position.isBefore point = true := by
  obtain hnil | ⟨byte, hmem, rfl⟩ := Bracket.mem_foldl_step h
  · simp at hnil
  · have hfilter := hmem
    rw [codeBytesBefore_eq_filter] at hfilter
    exact ⟨(List.mem_filter.mp hmem).2, (List.mem_filter.mp hfilter).2⟩

end Document

-- ---------------------------------------------------------------------------
-- Between two points
-- ---------------------------------------------------------------------------

theorem Position.isBefore_trans {p q r : Position} (h : p.isBefore q = true)
    (h' : q.isBefore r = true) : p.isBefore r = true := by
  rw [Position.isBefore_iff] at *
  omega

theorem Position.isBefore_of_not_isBefore {p q r : Position} (h : p.isBefore q = true)
    (h' : r.isBefore q = false) : p.isBefore r = true := by
  rw [← Bool.not_eq_true] at h'
  rw [Position.isBefore_iff] at *
  omega

theorem filter_append_filter_not {bytes : List (Position × UInt8)}
    (hsorted : bytes.Pairwise fun x y => x.1.isBefore y.1 = true) (point : Position) :
    bytes.filter (·.1.isBefore point) ++ bytes.filter (fun byte => !byte.1.isBefore point) =
      bytes := by
  induction bytes with
  | nil => rfl
  | cons byte rest ih =>
    obtain ⟨hfirst, hrest⟩ := List.pairwise_cons.mp hsorted
    cases hbyte : byte.1.isBefore point with
    | true => simp [hbyte, ih hrest]
    | false =>
      have hlater : ∀ later ∈ rest, later.1.isBefore point = false := by
        intro later hmem
        by_contra hbefore
        simp [Position.isBefore_trans (hfirst later hmem) (by simpa using hbefore)] at hbyte
      have hnone : rest.filter (·.1.isBefore point) = [] :=
        List.filter_eq_nil_iff.mpr fun later hmem => by simp [hlater later hmem]
      have hall : rest.filter (fun byte => !byte.1.isBefore point) = rest :=
        List.filter_eq_self.mpr fun later hmem => by simp [hlater later hmem]
      simp [hbyte, hnone, hall]

namespace Document

variable {doc : Document} {kind : Bracket} {point earlier position : Position}

theorem codeBytesBefore_append (doc : Document) (h : point.isBefore earlier = false) :
    ∃ between, doc.codeBytesBefore point = doc.codeBytesBefore earlier ++ between ∧
      ∀ byte ∈ between, byte.1.isBefore earlier = false := by
  have hcut : (doc.codeBytesBefore point).filter (·.1.isBefore earlier) =
      doc.codeBytesBefore earlier := by
    rw [codeBytesBefore_eq_filter, codeBytesBefore_eq_filter, List.filter_filter]
    refine List.filter_congr fun byte _ => ?_
    cases hbyte : byte.1.isBefore earlier with
    | true => simp [Position.isBefore_of_not_isBefore hbyte h]
    | false => simp
  have hsplit := filter_append_filter_not (doc.pairwise_codeBytesBefore point) earlier
  rw [hcut] at hsplit
  exact ⟨_, hsplit.symm, fun byte hmem => by simpa using (List.mem_filter.mp hmem).2⟩

theorem mem_openOf_of_isBefore (h : position ∈ doc.openOf kind point)
    (hafter : position.isBefore earlier = true) (hle : point.isBefore earlier = false) :
    position ∈ doc.openOf kind earlier := by
  obtain ⟨between, hbytes, hbetween⟩ := doc.codeBytesBefore_append hle
  rw [openOf, hbytes, List.foldl_append] at h
  obtain hopen | ⟨byte, hmem, rfl⟩ := Bracket.mem_foldl_step h
  · exact hopen
  · simp [hbetween byte hmem] at hafter

theorem lastAnchor?_ne_none (h : position ∈ doc.openOf kind point) :
    doc.lastAnchor? point ≠ none := by
  have hsome : doc.anchor? kind point ≠ none := by
    simpa [anchor?_eq_head?] using List.ne_nil_of_mem h
  obtain ⟨nearest, hnearest⟩ := Option.ne_none_iff_exists'.mp hsome
  have hmem : Anchor.mk nearest kind ∈ Bracket.all.filterMap fun bracket =>
      (unclosed? bracket 0 (doc.bracketSitesBefore point).reverse).map fun position =>
        Anchor.mk position bracket := by
    refine List.mem_filterMap.mpr ⟨kind, by cases kind <;> decide, ?_⟩
    rw [anchor?] at hnearest
    rw [hnearest]
    rfl
  simp only [lastAnchor?]
  split
  · next hnil => simp [hnil] at hmem
  · exact Option.some_ne_none _

end Document

/-- The search for a kind of bracket finds the top of the stack of that kind and
finds nothing exactly when the stack is empty; what it finds stands strictly before
the point. -/
theorem anchor?_eq_kind_stack_top (doc : Document) (kind : Bracket) (point : Position) :
    doc.anchor? kind point = (doc.openOf kind point).head? ∧
      (doc.anchor? kind point = none ↔ doc.openOf kind point = []) ∧
      ∀ position, doc.anchor? kind point = some position →
        position.isBefore (doc.clamp point) = true ∧ position.isBefore point = true := by
  have htop := doc.anchor?_eq_head? kind point
  refine ⟨htop, by rw [htop, List.head?_eq_none_iff], fun position hfound => ?_⟩
  exact Document.before_of_mem_openOf (List.mem_of_head? (htop ▸ hfound))

/-- A closer with nothing to close, a pair that crosses another kind, a bracket in a
string and a line whose row is overridden, seen from past the end of the document. -/
theorem anchor?_eq_kind_stack_top_crossed :
    let doc := (Document.ofLines [")f([(x ])".toList, "'(' + (".toList] 8).setRow 1
      (List.replicate 7 .string)
    doc.openOf .paren ⟨5, 9⟩ = [⟨0, 2⟩] ∧ doc.anchor? .paren ⟨5, 9⟩ = some ⟨0, 2⟩ ∧
      Position.isBefore ⟨0, 2⟩ (doc.clamp ⟨5, 9⟩) = true := by
  intro doc
  have hstack : doc.openOf .paren ⟨5, 9⟩ = [⟨0, 2⟩] := by decide
  obtain ⟨htop, -, hbefore⟩ := anchor?_eq_kind_stack_top doc .paren ⟨5, 9⟩
  have hfound : doc.anchor? .paren ⟨5, 9⟩ = some ⟨0, 2⟩ := by rw [htop, hstack]; rfl
  exact ⟨hstack, hfound, (hbefore _ hfound).1⟩

end Reindent
