import Mathlib.Data.List.Induction
import Reindent.Proofs.Structure

/-!
# Open brackets are on a stack

The three kinds of brackets are searched for one by one, upwards, with a count
of the closers on the way. Told forwards, a search for one kind is a stack: an
opener of the kind goes on it, a closer takes one off, and what the search
finds is the top. The nearest open bracket of any kind is the latest of the
three tops. Where brackets are well nested, a single stack for all kinds does
the same: the three stacks are its parts, so its own top is the latest.

The forward run goes through the bytes of code. The search goes through
characters instead, which comes to the same because no byte of a longer
character is a bracket.
-/

namespace Reindent

-- ---------------------------------------------------------------------------
-- Bytes of code
-- ---------------------------------------------------------------------------

def Bracket.openedBy? (b : UInt8) : Option Bracket := all.find? (·.opener.toUInt8 == b)

def Bracket.closedBy? (b : UInt8) : Option Bracket := all.find? (·.closer.toUInt8 == b)

namespace Document

/-- A point past the end of its line or of the document is moved back there. -/
def clamp (doc : Document) (point : Position) : Position :=
  if point.line < doc.lineCount then
    ⟨point.line, min point.column (doc.lineLength point.line)⟩
  else ⟨doc.lineCount - 1, doc.lineLength (doc.lineCount - 1)⟩

def codeBytes (doc : Document) (line : Nat) : List (Position × UInt8) :=
  (Text.bytes (doc.line line)).zipIdx.filterMap fun (b, column) =>
    if doc.isCode line column then some (⟨line, column⟩, b) else none

def codeBytesBefore (doc : Document) (point : Position) : List (Position × UInt8) :=
  ((List.range doc.lineCount).flatMap doc.codeBytes).filter fun (position, _) =>
    position.isBefore (doc.clamp point)

end Document

/-- What a byte of code does to the stack of open brackets, the innermost first.
There is no stack behind a closer that does not fit the innermost bracket; one
that meets no bracket at all is passed over. -/
def bracketStep (stack : List Anchor) (byte : Position × UInt8) : Option (List Anchor) :=
  match Bracket.openedBy? byte.2, Bracket.closedBy? byte.2, stack with
  | some kind, _, stack => some (⟨byte.1, kind⟩ :: stack)
  | none, some kind, top :: rest => if top.bracket = kind then some rest else none
  | none, some _, [] => some []
  | none, none, stack => some stack

/-- The brackets open before a point, if all brackets before it are well nested. -/
def Document.openBrackets? (doc : Document) (point : Position) : Option (List Anchor) :=
  (doc.codeBytesBefore point).foldlM bracketStep []

-- ---------------------------------------------------------------------------
-- Bytes and characters
-- ---------------------------------------------------------------------------

def bracketSite? (byte : Position × UInt8) : Option BracketSite :=
  let c := Char.ofNat byte.2.toNat
  if isBracketChar c then some ⟨byte.1, c⟩ else none

theorem isBracketChar_iff {c : Char} :
    isBracketChar c = true ↔ c ∈ ['(', ')', '{', '}', '[', ']'] := by
  simp [isBracketChar, Bracket.all, Bracket.opener, Bracket.closer, or_assoc]

theorem toNat_lt_of_isBracketChar {c : Char} (h : isBracketChar c = true) : c.toNat < 128 := by
  have hsmall : ['(', ')', '{', '}', '[', ']'].all (·.toNat < 128) = true := by decide
  simpa using List.all_eq_true.mp hsmall c (isBracketChar_iff.mp h)

theorem le_of_mem_utf8EncodeChar {c : Char} (h : c.utf8Size ≠ 1) {b : UInt8}
    (hb : b ∈ String.utf8EncodeChar c) : 128 ≤ b.toNat := by
  have hbig : ¬ c.val.toNat ≤ 127 := by
    intro hle
    exact h (Char.utf8Size_eq_one_iff.mpr (UInt32.le_iff_toNat_le.mpr hle))
  rw [String.utf8EncodeChar, if_neg hbig] at hb
  split at hb
  · simp only [List.mem_cons, List.not_mem_nil, or_false] at hb
    rcases hb with rfl | rfl <;> simp <;> omega
  · split at hb
    · simp only [List.mem_cons, List.not_mem_nil, or_false] at hb
      rcases hb with rfl | rfl | rfl <;> simp <;> omega
    · simp only [List.mem_cons, List.not_mem_nil, or_false] at hb
      rcases hb with rfl | rfl | rfl | rfl <;> simp <;> omega

theorem bracketSite?_of_le {position : Position} {b : UInt8} (h : 128 ≤ b.toNat) :
    bracketSite? (position, b) = none := by
  have hlt : b.toNat < 256 := b.toNat_lt
  have hchar : (Char.ofNat b.toNat).toNat = b.toNat := by
    rw [Char.ofNat, dif_pos (Or.inl (by omega))]
    rfl
  refine if_neg fun hbracket => ?_
  have hlow := toNat_lt_of_isBracketChar hbracket
  dsimp only at hlow
  omega

theorem ofNat_byte_of_utf8Size {c : Char} (h : c.utf8Size = 1) :
    Char.ofNat c.val.toUInt8.toNat = c := by
  have hle : c.val.toNat ≤ 127 := UInt32.le_iff_toNat_le.mp (Char.utf8Size_eq_one_iff.mp h)
  have hbyte : c.val.toUInt8.toNat = c.toNat := by
    rw [UInt32.toNat_toUInt8]
    exact Nat.mod_eq_of_lt (by omega)
  rw [hbyte, Char.ofNat_toNat]

theorem bracketSite?_of_utf8Size {c : Char} (h : c.utf8Size = 1) (position : Position) :
    bracketSite? (position, c.val.toUInt8) =
      if isBracketChar c then some ⟨position, c⟩ else none := by
  simp only [bracketSite?, ofNat_byte_of_utf8Size h]

theorem bracketSites_eq_filterMap (line : Nat) {column : Nat} {text : Text} {row : Row}
    {code : Nat → Bool} (hcode : ∀ i, (Row.at row i).isCode = code (column + i)) :
    bracketSites line column text row =
      ((Text.bytes text).zipIdx column).filterMap fun (b, i) =>
        if code i then bracketSite? (⟨line, i⟩, b) else none := by
  induction text generalizing column row with
  | nil => rfl
  | cons c rest ih =>
    have hdrop (i : Nat) : (Row.at (row.drop c.utf8Size) i).isCode =
        code (column + c.utf8Size + i) := by
      rw [Row.at_drop, hcode, Nat.add_assoc]
    have hlater := ih hdrop
    have hhead : (Row.at row 0).isCode = code column := hcode 0
    have hbytes : Text.bytes (c :: rest) = String.utf8EncodeChar c ++ Text.bytes rest :=
      List.flatMap_cons
    rw [bracketSites, hlater, hhead, hbytes, List.zipIdx_append, String.length_utf8EncodeChar,
      List.filterMap_append]
    by_cases hsize : c.utf8Size = 1
    · rw [String.utf8EncodeChar_eq_singleton hsize]
      simp only [List.zipIdx_singleton, List.filterMap_cons, List.filterMap_nil,
        bracketSite?_of_utf8Size hsize]
      cases isBracketChar c <;> cases code column <;> rfl
    · have hplain : isBracketChar c = false := by
        rw [← Bool.not_eq_true, isBracketChar_iff]
        intro hmem
        have hone : ['(', ')', '{', '}', '[', ']'].all (·.utf8Size == 1) = true := by decide
        exact hsize (by simpa using List.all_eq_true.mp hone c hmem)
      have hnone : ((String.utf8EncodeChar c).zipIdx column).filterMap (fun (b, i) =>
          if code i then bracketSite? (⟨line, i⟩, b) else none) = [] := by
        rw [List.filterMap_eq_nil_iff]
        rintro ⟨b, i⟩ hmem
        have hb := le_of_mem_utf8EncodeChar hsize (List.fst_mem_of_mem_zipIdx hmem)
        simp [bracketSite?_of_le hb]
      rw [hnone, hplain]
      rfl

def allBracketSites (line : Nat) : List SourceLine → List BracketSite
  | [] => []
  | l :: rest => bracketSites line 0 l.text l.row ++ allBracketSites (line + 1) rest

theorem le_line_of_mem_allBracketSites {line : Nat} {lines : List SourceLine} {site : BracketSite}
    (h : site ∈ allBracketSites line lines) : line ≤ site.position.line := by
  induction lines generalizing line with
  | nil => simp [allBracketSites] at h
  | cons l rest ih =>
    rcases List.mem_append.mp h with h | h
    · rw [line_of_mem_bracketSites h]
    · exact Nat.le_of_succ_le (ih h)

theorem bracketSitesBefore_eq_filter (point : Position) (line : Nat) (lines : List SourceLine) :
    bracketSitesBefore point line lines =
      (allBracketSites line lines).filter (·.position.isBefore point) := by
  induction lines generalizing line with
  | nil => rfl
  | cons l rest ih =>
    have hline {site : BracketSite} (h : site ∈ bracketSites line 0 l.text l.row) :
        site.position.line = line := line_of_mem_bracketSites h
    have hbelow {site : BracketSite} (h : site ∈ allBracketSites (line + 1) rest) :
        line + 1 ≤ site.position.line := le_line_of_mem_allBracketSites h
    rw [bracketSitesBefore, allBracketSites, List.filter_append, ih]
    split
    case isTrue hlt =>
      congr 1
      refine (List.filter_eq_self.mpr fun site hs => ?_).symm
      exact Position.isBefore_iff.mpr (.inl (hline hs ▸ hlt))
    case isFalse hge =>
      have hrest : (allBracketSites (line + 1) rest).filter (·.position.isBefore point) = [] := by
        refine List.filter_eq_nil_iff.mpr fun site hs hbefore => ?_
        have := hbelow hs
        rcases Position.isBefore_iff.mp hbefore with h | ⟨h, -⟩ <;> omega
      rw [hrest, List.append_nil]
      split
      case isTrue heq =>
        refine List.filter_congr fun site hs => ?_
        rw [Bool.eq_iff_iff, Position.isBefore_iff, hline hs, decide_eq_true_eq]
        omega
      case isFalse hne =>
        refine (List.filter_eq_nil_iff.mpr fun site hs hbefore => ?_).symm
        have := hline hs
        rcases Position.isBefore_iff.mp hbefore with h | ⟨h, -⟩ <;> omega

namespace Document

variable {doc : Document} {point : Position}

theorem mem_codeBytes {line : Nat} {byte : Position × UInt8} (h : byte ∈ doc.codeBytes line) :
    byte.1.line = line ∧ byte.1.column < doc.lineLength line := by
  obtain ⟨⟨b, column⟩, hmem, hbyte⟩ := List.mem_filterMap.mp h
  dsimp only at hbyte
  split at hbyte
  · obtain rfl := Option.some.inj hbyte
    have hlt := List.snd_lt_of_mem_zipIdx hmem
    rw [Text.length_bytes, Nat.add_zero] at hlt
    exact ⟨rfl, hlt⟩
  · simp at hbyte

theorem isBefore_clamp {position : Position} (hline : position.line < doc.lineCount)
    (hcolumn : position.column < doc.lineLength position.line) :
    position.isBefore (doc.clamp point) = position.isBefore point := by
  rw [Bool.eq_iff_iff, Position.isBefore_iff, Position.isBefore_iff, clamp]
  split
  case isTrue hin =>
    dsimp only
    by_cases hsame : position.line = point.line
    · rw [hsame] at hcolumn
      omega
    · omega
  case isFalse hout =>
    dsimp only
    by_cases hlast : position.line = doc.lineCount - 1
    · rw [hlast] at hcolumn
      omega
    · omega

theorem filterMap_codeBytes {line : Nat} {l : SourceLine} (h : doc.lines[line]? = some l) :
    (doc.codeBytes line).filterMap bracketSite? = bracketSites line 0 l.text l.row := by
  have hcode (i : Nat) : (Row.at l.row i).isCode = doc.isCode line (0 + i) := by
    rw [isCode, attributeAt_eq h, Nat.zero_add]
  rw [bracketSites_eq_filterMap line hcode, codeBytes, line_eq h, List.filterMap_filterMap]
  congr 1
  funext byte
  dsimp only
  split <;> rfl

theorem allBracketSites_drop {doc : Document} {line : Nat} (h : line ≤ doc.lineCount) :
    allBracketSites line (doc.lines.drop line) =
      (List.range' line (doc.lineCount - line)).flatMap fun l =>
        (doc.codeBytes l).filterMap bracketSite? := by
  induction hn : doc.lineCount - line generalizing line with
  | zero =>
    have hnone : doc.lines.drop line = [] := List.drop_eq_nil_of_le (Nat.le_of_sub_eq_zero hn)
    rw [hnone]
    rfl
  | succ n ih =>
    have hlt : line < doc.lines.length := by
      rw [lineCount] at hn
      omega
    rw [List.drop_eq_getElem_cons hlt, allBracketSites, ih (Nat.succ_le_of_lt hlt) (by omega),
      List.range'_succ, List.flatMap_cons, filterMap_codeBytes (List.getElem?_eq_getElem hlt)]

/-- The point need not be moved back, since no byte stands between. -/
theorem codeBytesBefore_eq_filter (doc : Document) (point : Position) :
    doc.codeBytesBefore point =
      ((List.range doc.lineCount).flatMap doc.codeBytes).filter fun byte =>
        byte.1.isBefore point := by
  refine List.filter_congr fun byte hbyte => ?_
  obtain ⟨line, hline, hmem⟩ := List.mem_flatMap.mp hbyte
  obtain ⟨rfl, hcolumn⟩ := mem_codeBytes hmem
  exact isBefore_clamp (List.mem_range.mp hline) hcolumn

theorem bracketSitesBefore_eq (doc : Document) (point : Position) :
    doc.bracketSitesBefore point = (doc.codeBytesBefore point).filterMap bracketSite? := by
  have hall := allBracketSites_drop (Nat.zero_le doc.lineCount)
  rw [List.drop_zero, Nat.sub_zero, ← List.range_eq_range'] at hall
  rw [bracketSitesBefore, bracketSitesBefore_eq_filter, hall, codeBytesBefore_eq_filter,
    ← List.filterMap_flatMap, List.filter_filterMap, List.filterMap_filter]
  congr 1
  funext byte
  rw [bracketSite?]
  split
  · rw [Option.filter_some]
  · simp

theorem pairwise_codeBytesBefore (doc : Document) (point : Position) :
    (doc.codeBytesBefore point).Pairwise fun x y => x.1.isBefore y.1 = true := by
  refine List.Pairwise.filter _ (List.pairwise_flatMap.mpr ⟨fun line _ => ?_, ?_⟩)
  · refine List.pairwise_filterMap.mpr (List.pairwise_iff_getElem.mpr ?_)
    intro i j hi hj hij x hx y hy
    simp only [List.getElem_zipIdx] at hx hy
    split at hx
    · split at hy
      · obtain rfl := Option.some.inj hx
        obtain rfl := Option.some.inj hy
        exact Position.isBefore_iff.mpr (.inr ⟨rfl, by dsimp only; omega⟩)
      · simp at hy
    · simp at hx
  · refine List.pairwise_lt_range.imp fun {i j} hij x hx y hy => ?_
    have hx := (mem_codeBytes hx).1
    have hy := (mem_codeBytes hy).1
    exact Position.isBefore_iff.mpr (.inl (by omega))

end Document

-- ---------------------------------------------------------------------------
-- One kind of brackets
-- ---------------------------------------------------------------------------

def kindStep (kind : Bracket) (stack : List Position) (site : BracketSite) : List Position :=
  if site.char = kind.closer then stack.tail
  else if site.char = kind.opener then site.position :: stack
  else stack

/-- A search with the count at `closed` finds the entry that many places below
the top of the stack of its kind. -/
theorem unclosed?_eq_getElem? (kind : Bracket) (closed : Nat) (sites : List BracketSite) :
    unclosed? kind closed sites.reverse = (sites.foldl (kindStep kind) [])[closed]? := by
  induction sites using List.reverseRecOn generalizing closed with
  | nil => rfl
  | append_singleton sites site ih =>
    rw [List.reverse_append, List.reverse_singleton, List.singleton_append, List.foldl_append,
      List.foldl_cons, List.foldl_nil, kindStep]
    simp only [unclosed?]
    split
    case isTrue => rw [ih, List.getElem?_tail]
    case isFalse =>
      split
      case isTrue =>
        cases closed with
        | zero => rfl
        | succ closed => exact ih closed
      case isFalse => exact ih closed

def kindPart (kind : Bracket) (stack : List Anchor) : List Position :=
  (stack.filter (·.bracket = kind)).map (·.position)

-- ---------------------------------------------------------------------------
-- One step and a whole run
-- ---------------------------------------------------------------------------

theorem toUInt8_eq_iff {c : Char} (hc : c.toNat < 128) {b : UInt8} :
    c.toUInt8 = b ↔ c = Char.ofNat b.toNat := by
  have hlt : b.toNat < 256 := b.toNat_lt
  have hb : (Char.ofNat b.toNat).toNat = b.toNat := by
    rw [Char.ofNat, dif_pos (Or.inl (by omega))]
    rfl
  have hbyte : c.toUInt8.toNat = c.toNat := by
    rw [Char.toUInt8, UInt32.toNat_toUInt8]
    exact Nat.mod_eq_of_lt (Nat.lt_trans hc (by omega))
  rw [← UInt8.toNat_inj, ← Char.toNat_inj, hb, hbyte]

theorem bracketSite?_eq_some {byte : Position × UInt8} {site : BracketSite}
    (h : bracketSite? byte = some site) :
    byte = (site.position, site.char.toUInt8) ∧
      ∃ kind : Bracket, site.char = kind.opener ∨ site.char = kind.closer := by
  obtain ⟨position, b⟩ := byte
  dsimp only [bracketSite?] at h
  split at h
  case isFalse => simp at h
  case isTrue hbracket =>
    obtain rfl := Option.some.inj h
    have hbyte := (toUInt8_eq_iff (toNat_lt_of_isBracketChar hbracket)).mpr rfl
    obtain ⟨kind, -, hkind⟩ := List.any_eq_true.mp hbracket
    exact ⟨by rw [hbyte], kind, by simpa using hkind⟩

theorem bracketStep_of_none {byte : Position × UInt8} (h : bracketSite? byte = none)
    (stack : List Anchor) : bracketStep stack byte = some stack := by
  obtain ⟨position, b⟩ := byte
  have hplain : isBracketChar (Char.ofNat b.toNat) = false := by
    by_contra hbracket
    simp [bracketSite?, hbracket] at h
  have hnone (side : Bracket → Char) (hside : ∀ kind, isBracketChar (side kind) = true) :
      Bracket.all.find? (fun kind => (side kind).toUInt8 == b) = none := by
    rw [List.find?_eq_none]
    rintro kind - hkind
    have hchar := (toUInt8_eq_iff (toNat_lt_of_isBracketChar (hside kind))).mp (beq_iff_eq.mp hkind)
    rw [← hchar, hside kind] at hplain
    exact Bool.false_ne_true hplain.symm
  have hopened : Bracket.openedBy? b = none :=
    hnone Bracket.opener fun kind => by cases kind <;> rfl
  have hclosed : Bracket.closedBy? b = none :=
    hnone Bracket.closer fun kind => by cases kind <;> rfl
  simp [bracketStep, hopened, hclosed]

theorem bracketStep_opener (stack : List Anchor) (position : Position) (kind : Bracket) :
    bracketStep stack (position, kind.opener.toUInt8) = some (⟨position, kind⟩ :: stack) := by
  cases kind <;> rfl

theorem bracketStep_closer (stack : List Anchor) (position : Position) (kind : Bracket) :
    bracketStep stack (position, kind.closer.toUInt8) =
      match stack with
      | [] => some []
      | top :: rest => if top.bracket = kind then some rest else none := by
  cases stack <;> cases kind <;> rfl

theorem kindPart_bracketStep {stack next : List Anchor} {byte : Position × UInt8}
    {site : BracketSite} (hsite : bracketSite? byte = some site)
    (h : bracketStep stack byte = some next) (kind : Bracket) :
    kindStep kind (kindPart kind stack) site = kindPart kind next := by
  obtain ⟨position, char⟩ := site
  obtain ⟨rfl, other, rfl | rfl⟩ := bracketSite?_eq_some hsite
  · rw [bracketStep_opener] at h
    obtain rfl := Option.some.inj h
    have hnot : other.opener ≠ kind.closer := by cases other <;> cases kind <;> decide
    have hinj : other.opener = kind.opener ↔ other = kind := by
      cases other <;> cases kind <;> decide
    rw [kindStep, if_neg hnot]
    by_cases heq : other = kind <;> simp [kindPart, hinj, heq]
  · rw [bracketStep_closer] at h
    have hnot : other.closer ≠ kind.opener := by cases other <;> cases kind <;> decide
    have hinj : other.closer = kind.closer ↔ other = kind := by
      cases other <;> cases kind <;> decide
    cases stack with
    | nil =>
      obtain rfl := Option.some.inj h
      simp [kindStep, kindPart, hnot]
    | cons top rest =>
      dsimp only at h
      split at h
      · obtain rfl := Option.some.inj h
        by_cases heq : other = kind <;> simp_all [kindStep, kindPart]
      · simp at h

theorem foldlM_bracketStep_cons {byte : Position × UInt8} {rest : List (Position × UInt8)}
    {stack final : List Anchor} (h : (byte :: rest).foldlM bracketStep stack = some final) :
    ∃ next, bracketStep stack byte = some next ∧ rest.foldlM bracketStep next = some final := by
  rw [List.foldlM_cons] at h
  exact Option.bind_eq_some_iff.mp h

/-- The three stacks are the parts of the mixed one all along. -/
theorem kindPart_foldlM {bytes : List (Position × UInt8)} {stack final : List Anchor}
    (h : bytes.foldlM bracketStep stack = some final) (kind : Bracket) :
    (bytes.filterMap bracketSite?).foldl (kindStep kind) (kindPart kind stack) =
      kindPart kind final := by
  induction bytes generalizing stack with
  | nil =>
    obtain rfl := Option.some.inj h
    rfl
  | cons byte rest ih =>
    obtain ⟨next, hnext, hrest⟩ := foldlM_bracketStep_cons h
    cases hsite : bracketSite? byte with
    | none =>
      rw [bracketStep_of_none hsite] at hnext
      obtain rfl := Option.some.inj hnext
      rw [List.filterMap_cons_none hsite]
      exact ih hrest
    | some site =>
      rw [List.filterMap_cons_some hsite, List.foldl_cons, kindPart_bracketStep hsite hnext]
      exact ih hrest

theorem sublist_foldlM {bytes : List (Position × UInt8)} {stack final : List Anchor}
    (h : bytes.foldlM bracketStep stack = some final) :
    (final.map (·.position)).Sublist
      ((bytes.map Prod.fst).reverse ++ stack.map (·.position)) := by
  induction bytes generalizing stack with
  | nil =>
    obtain rfl := Option.some.inj h
    exact .refl _
  | cons byte rest ih =>
    obtain ⟨next, hnext, hrest⟩ := foldlM_bracketStep_cons h
    have hstep : (next.map (·.position)).Sublist (byte.1 :: stack.map (·.position)) := by
      simp only [bracketStep] at hnext
      split at hnext
      · obtain rfl := Option.some.inj hnext
        exact .refl _
      · split at hnext
        · obtain rfl := Option.some.inj hnext
          exact .cons _ (.cons _ (.refl _))
        · simp at hnext
      · obtain rfl := Option.some.inj hnext
        exact .cons _ (.refl _)
      · obtain rfl := Option.some.inj hnext
        exact .cons _ (.refl _)
    rw [List.map_cons, List.reverse_cons, List.append_assoc, List.singleton_append]
    exact (ih hrest).trans (hstep.append_left _)

-- ---------------------------------------------------------------------------
-- The latest of the three tops
-- ---------------------------------------------------------------------------

theorem foldl_later_eq {top first : Anchor} {rest : List Anchor} (hmem : top ∈ first :: rest)
    (h : ∀ x ∈ first :: rest, x = top ∨ x.position.isBefore top.position = true) :
    rest.foldl (fun a b => if b.position.isBefore a.position then a else b) first = top := by
  induction rest generalizing first with
  | nil => exact (List.mem_singleton.mp hmem).symm
  | cons next rest ih =>
    have hasymm {p q : Position} (hpq : p.isBefore q = true) : q.isBefore p = false := by
      rw [← Bool.not_eq_true, Position.isBefore_iff]
      rw [Position.isBefore_iff] at hpq
      omega
    rw [List.foldl_cons]
    refine ih ?_ ?_
    · rcases h first (by simp) with rfl | hfirst
      · rcases h next (by simp) with rfl | hnext
        · simp
        · simp [hnext]
      · rcases List.mem_cons.mp hmem with rfl | hmem
        · simp [hasymm hfirst] at hfirst
        · rcases List.mem_cons.mp hmem with rfl | hmem
          · simp [hasymm hfirst]
          · exact List.mem_cons_of_mem _ hmem
    · intro x hx
      rcases List.mem_cons.mp hx with rfl | hx
      · split
        · exact h first (by simp)
        · exact h next (by simp)
      · exact h x (by simp [hx])

namespace Document

variable {doc : Document} {point : Position} {stack : List Anchor}

theorem anchors_eq (h : doc.openBrackets? point = some stack) (kind : Bracket) :
    ((unclosed? kind 0 (doc.bracketSitesBefore point).reverse).map fun position =>
      Anchor.mk position kind) = stack.find? (·.bracket = kind) := by
  have hpart : (doc.bracketSitesBefore point).foldl (kindStep kind) [] = kindPart kind stack := by
    rw [bracketSitesBefore_eq]
    exact kindPart_foldlM h kind
  rw [unclosed?_eq_getElem?, hpart, ← List.head?_eq_getElem?, kindPart, List.head?_map,
    List.head?_filter]
  cases hfound : stack.find? (·.bracket = kind) with
  | none => rfl
  | some anchor =>
    have hkind : anchor.bracket = kind := by simpa using List.find?_some hfound
    rw [← hkind]
    rfl

theorem pairwise_openBrackets (h : doc.openBrackets? point = some stack) :
    stack.Pairwise fun x y => y.position.isBefore x.position = true := by
  have hbytes : ((doc.codeBytesBefore point).map Prod.fst).Pairwise fun p q =>
      p.isBefore q = true := List.pairwise_map.mpr (doc.pairwise_codeBytesBefore point)
  have hsub := sublist_foldlM h
  rw [List.map_nil, List.append_nil] at hsub
  exact List.pairwise_map.mp ((List.pairwise_reverse.mpr hbytes).sublist hsub)

theorem lastAnchor?_of_openBrackets? (h : doc.openBrackets? point = some stack) :
    doc.lastAnchor? point = stack.head? := by
  have hanchors : Bracket.all.filterMap (fun kind =>
      (unclosed? kind 0 (doc.bracketSitesBefore point).reverse).map fun position =>
        Anchor.mk position kind) = Bracket.all.filterMap fun kind =>
      stack.find? (·.bracket = kind) := by
    congr 1
    exact funext (anchors_eq h)
  simp only [lastAnchor?, hanchors]
  cases hstack : stack with
  | nil => simp
  | cons top rest =>
    have hlater := List.pairwise_cons.mp (hstack ▸ pairwise_openBrackets h)
    have htop : top ∈ Bracket.all.filterMap fun kind => (top :: rest).find? (·.bracket = kind) := by
      refine List.mem_filterMap.mpr ⟨top.bracket, ?_, by simp⟩
      cases top.bracket <;> decide
    have hall : ∀ x ∈ Bracket.all.filterMap (fun kind => (top :: rest).find? (·.bracket = kind)),
        x = top ∨ x.position.isBefore top.position = true := by
      intro x hx
      obtain ⟨kind, -, hfound⟩ := List.mem_filterMap.mp hx
      rcases List.mem_cons.mp (List.mem_of_find?_eq_some hfound) with rfl | hmem
      · exact .inl rfl
      · exact .inr (hlater.1 x hmem)
    revert htop hall
    generalize Bracket.all.filterMap _ = anchors
    intro htop hall
    cases anchors with
    | nil => simp at htop
    | cons first others => exact congrArg some (foldl_later_eq htop hall)

end Document

/-- Where a single stack of open brackets runs through the code before a point
without a closer that does not fit, its top is the nearest open bracket, and
there is none exactly when the stack is empty. -/
theorem lastAnchor?_eq_stack_top (doc : Document) (point : Position) (stack : List Anchor)
    (h : doc.openBrackets? point = some stack) :
    doc.lastAnchor? point = stack.head? ∧ (doc.lastAnchor? point = none ↔ stack = []) := by
  have htop := Document.lastAnchor?_of_openBrackets? h
  exact ⟨htop, by rw [htop, List.head?_eq_none_iff]⟩

/-- A closed pair of another kind, a bracket in a string and one behind the point,
in a hash that is open. -/
theorem lastAnchor?_eq_stack_top_nested :
    let doc := Document.ofLines [")f(a, \x7b b: [1],".toList, "  c: '(', d: g(".toList] 8
    doc.openBrackets? ⟨1, 13⟩ = some [⟨⟨0, 6⟩, .brace⟩, ⟨⟨0, 2⟩, .paren⟩] ∧
      doc.lastAnchor? ⟨1, 13⟩ = some ⟨⟨0, 6⟩, .brace⟩ := by
  intro doc
  have hstack : doc.openBrackets? ⟨1, 13⟩ = some [⟨⟨0, 6⟩, .brace⟩, ⟨⟨0, 2⟩, .paren⟩] := by
    decide
  exact ⟨hstack, (lastAnchor?_eq_stack_top doc ⟨1, 13⟩ _ hstack).1⟩

end Reindent
