import Crosscheck.Text.CharClass
import Crosscheck.Yaml.Document
import Mathlib.Data.List.TakeWhile

/-! # White space

White space as it is trimmed from a text is more than what separates tokens, so a text of white space
may hold a scalar, or be malformed. It never holds a mapping: reading such a text meets no indicator,
and what is taken from it is handed on through tokens and events to the document.
-/

namespace Crosscheck

theorem Text.isBlank_of_trim {text : List Char} (h : (trim text).isEmpty = true) :
    ∀ char ∈ text, isBlank char = true := by
  have hnil : (text.dropWhile isBlank).reverse.dropWhile isBlank = [] := by
    simpa [trim] using h
  rw [List.dropWhile_eq_nil_iff] at hnil
  intro char hchar
  rw [← List.takeWhile_append_dropWhile (p := isBlank) (l := text), List.mem_append] at hchar
  rcases hchar with hchar | hchar
  · exact List.mem_takeWhile_imp hchar
  · exact hnil char (List.mem_reverse.mpr hchar)

namespace Yaml

/-! ## Cursors -/

namespace Cursor

/-- Only white space is left. -/
def Blank (c : Cursor) : Prop :=
  ∀ char ∈ c.rest, Text.isBlank char = true

theorem Blank.of_suffix {c c' : Cursor} (h : c.Blank) (hs : c'.rest <:+ c.rest) : c'.Blank :=
  fun char hchar => h char (hs.subset hchar)

theorem advance_suffix (c : Cursor) (count : Nat) (rest : List Char) (mark : Mark) :
    (c.advance count rest mark).rest <:+ rest := by
  fun_induction advance c count rest mark with
  | case1 mark count char rest ih => exact ih.trans (List.suffix_cons _ _)
  | case2 => exact List.suffix_rfl

theorem skip_suffix (c : Cursor) (count : Nat) : (c.skip count).rest <:+ c.rest :=
  c.advance_suffix count c.rest c.mark

theorem takeFrom_suffix (c : Cursor) (test : Char → Bool) (front rest : List Char) (mark : Mark) :
    (c.takeFrom test front rest mark).2.rest <:+ rest := by
  induction rest generalizing front mark with
  | nil => exact List.suffix_rfl
  | cons char rest ih =>
    unfold takeFrom
    split
    · exact (ih _ _).trans (List.suffix_cons _ _)
    · exact List.suffix_rfl

theorem skipWhile_suffix (c : Cursor) (test : Char → Bool) : (c.skipWhile test).rest <:+ c.rest :=
  c.takeFrom_suffix test [] c.rest c.mark

theorem readBreak_suffix (c : Cursor) : c.readBreak.2.rest <:+ c.rest := by
  unfold readBreak
  split
  · next rest h => exact h ▸ (List.suffix_cons _ _).trans (List.suffix_cons _ _)
  · next char rest _ h =>
    split
    · exact h ▸ List.suffix_cons _ _
    · split
      · exact h ▸ List.suffix_cons _ _
      · exact List.suffix_rfl
  · exact List.suffix_rfl

theorem mem_of_mem_legibleFrom {front block : List Char} {room : Nat} {text : List Char} {c : Char}
    (h : c ∈ (legibleFrom front block room text).1) : c ∈ front ∨ c ∈ block ∨ c ∈ text := by
  fun_induction legibleFrom front block room text with
  | case1 front block room => simpa [or_comm] using h
  | case2 front block room char rest _ _ ih => grind
  | case3 front block room char rest => exact .inl (by simpa using h)
  | case4 front block room char rest _ _ ih => grind
  | case5 front block room char rest => grind

theorem blank_ofText {text : List Char} (h : ∀ char ∈ text, Text.isBlank char = true) :
    (ofText text).Blank := by
  intro char hchar
  exact h char (by simpa using mem_of_mem_legibleFrom hchar)

end Cursor

theorem readGap_suffix {indent : Int} {fuel : Nat} {gap gap' : Gap} {c c' : Cursor}
    (h : readGap indent fuel gap c = some (gap', c')) : c'.rest <:+ c.rest := by
  fun_induction readGap indent fuel gap c with
  | case1 | case3 | case10 =>
    cases h
    exact List.suffix_rfl
  | case2 | case4 | case7 => cases h
  | case5 _ _ _ _ _ _ _ _ ih => exact (ih h).trans (Cursor.skip_suffix _ _)
  | case6 _ _ _ _ _ _ _ _ ih => exact (ih h).trans (Cursor.skip_suffix _ _)
  | case8 _ _ c _ _ _ _ text next hbreak _ _ ih =>
    have hnext := c.readBreak_suffix
    rw [hbreak] at hnext
    exact (ih h).trans hnext
  | case9 _ _ c _ _ _ _ text next hbreak _ _ ih =>
    have hnext := c.readBreak_suffix
    rw [hbreak] at hnext
    exact (ih h).trans hnext

theorem readPlain_suffix {flow broken : Bool} {indent : Int} {fuel : Nat} {text text' : List Char}
    {gap : Gap} {c c' : Cursor}
    (h : readPlain flow indent fuel text gap c = some (text', broken, c')) : c'.rest <:+ c.rest := by
  fun_induction readPlain flow indent fuel text gap c with
  | case1 | case3 =>
    cases h
    exact List.suffix_rfl
  | case2 | case4 | case5 | case7 => cases h
  | case6 =>
    obtain ⟨-, -, rfl⟩ := by simpa using h
    exact Cursor.skip_suffix _ _
  | case8 fuel text gap c _ _ word _ text1 gap1 _ c1 _ _ gap2 c2 hgap _ =>
    cases h
    exact (readGap_suffix hgap).trans (Cursor.skip_suffix _ _)
  | case9 fuel text gap c _ _ word _ text1 gap1 _ c1 _ _ gap2 c2 hgap _ ih =>
    exact ((ih h).trans (readGap_suffix hgap)).trans (Cursor.skip_suffix _ _)

/-! ## Tokens -/

/-- The tokens that a text without indicators may have. -/
def TokenKind.isBare : TokenKind → Bool
  | .streamStart | .streamEnd | .blockEnd | .scalar _ _ => true
  | _ => false

theorem TokenKind.cases_of_isBare {kind : TokenKind} (h : kind.isBare = true) :
    kind = .streamStart ∨ kind = .streamEnd ∨ kind = .blockEnd ∨
      ∃ text style, kind = .scalar text style := by
  cases kind <;> simp_all [isBare]

namespace Tokens

/-- White space is left, and no indicator has been met before it. -/
structure Bare (t : Tokens) : Prop where
  blank : t.cursor.Blank
  bare : ∀ token ∈ t.ready, token.kind.isBare = true

theorem Bare.moved {t t' : Tokens} (h : t.Bare) (hrest : t'.cursor.rest <:+ t.cursor.rest)
    (hready : t'.ready = t.ready) : t'.Bare :=
  ⟨h.blank.of_suffix hrest, hready ▸ h.bare⟩

theorem Bare.push {t : Tokens} (h : t.Bare) (kind : TokenKind) (hkind : kind.isBare = true)
    (start stop : Mark) : (t.push kind start stop).Bare := by
  refine ⟨h.blank, fun token htoken => ?_⟩
  rcases List.mem_append.mp htoken with hold | hnew
  · exact h.bare token hold
  · obtain rfl := List.mem_singleton.mp hnew
    exact hkind

theorem Bare.dropCandidate {t t' : Tokens} (h : t.Bare) (hd : t.dropCandidate = some t') :
    t'.Bare := by
  unfold Tokens.dropCandidate at hd
  split at hd
  · split at hd
    · cases hd
    · obtain rfl := Option.some.inj hd
      exact ⟨h.blank, h.bare⟩
  · obtain rfl := Option.some.inj hd
    exact h

theorem Bare.saveCandidate {t t' : Tokens} (h : t.Bare) (hs : t.saveCandidate = some t') :
    t'.Bare := by
  unfold Tokens.saveCandidate at hs
  split at hs
  · obtain ⟨dropped, hdropped, rfl⟩ := Option.map_eq_some_iff.mp hs
    exact ⟨(h.dropCandidate hdropped).blank, (h.dropCandidate hdropped).bare⟩
  · obtain rfl := Option.some.inj hs
    exact h

theorem Bare.dropStale {t t' : Tokens} (h : t.Bare) (hd : t.dropStale = some t') : t'.Bare := by
  unfold Tokens.dropStale at hd
  split at hd
  · cases hd
  · obtain rfl := Option.some.inj hd
    exact ⟨h.blank, h.bare⟩

theorem Bare.closeTo {t : Tokens} (h : t.Bare) (column : Int) : (t.closeTo column).Bare := by
  unfold Tokens.closeTo
  generalize t.indents = outers
  induction outers generalizing t with
  | nil => exact h
  | cons outer rest ih =>
    unfold closeBlocks
    split
    · have hpush := h.push .blockEnd rfl t.cursor.mark t.cursor.mark
      exact ih ⟨hpush.blank, hpush.bare⟩
    · exact h

/-- The place up to which a line is stepped over at once. -/
def lineEnd (t : Tokens) : Cursor :=
  let c := t.cursor
  let c := if c.mark.column == 0 && c.sees '\ufeff' then c.skip else c
  let c := c.skipWhile fun char =>
    char == ' ' || (char == '\t' && (t.flow != 0 || !t.keyAllowed))
  if c.sees '#' then c.skipWhile (!isBreak ·) else c

theorem skipToToken_succ (fuel : Nat) (t : Tokens) :
    skipToToken (fuel + 1) t =
      if t.lineEnd.atBreak then
        if t.lineEnd.lacks 2 then none
        else
          skipToToken fuel
            { t with cursor := t.lineEnd.readBreak.2, keyAllowed := t.keyAllowed || t.flow == 0 }
      else some { t with cursor := t.lineEnd } := rfl

theorem lineEnd_suffix (t : Tokens) : t.lineEnd.rest <:+ t.cursor.rest := by
  have hite (b : Bool) {c c' : Cursor} (h : c'.rest <:+ c.rest) :
      (if b then c' else c).rest <:+ c.rest := by
    cases b
    · exact List.suffix_rfl
    · exact h
  exact ((hite _ (Cursor.skipWhile_suffix _ _)).trans (Cursor.skipWhile_suffix _ _)).trans
    (hite _ (Cursor.skip_suffix _ _))

theorem Bare.skipToToken {fuel : Nat} {t t' : Tokens} (h : t.Bare)
    (hs : skipToToken fuel t = some t') : t'.Bare := by
  induction fuel generalizing t with
  | zero =>
    obtain rfl := Option.some.inj hs
    exact h
  | succ fuel ih =>
    have hend : t.lineEnd.Blank := h.blank.of_suffix t.lineEnd_suffix
    rw [skipToToken_succ] at hs
    split at hs
    · split at hs
      · cases hs
      · refine ih ?_ hs
        exact ⟨hend.of_suffix (Cursor.readBreak_suffix _), h.bare⟩
    · obtain rfl := Option.some.inj hs
      exact ⟨hend, h.bare⟩

theorem Bare.fetchStreamEnd {t t' : Tokens} (h : t.Bare) (hf : t.fetchStreamEnd = some t') :
    t'.Bare := by
  unfold Tokens.fetchStreamEnd at hf
  obtain ⟨dropped, hdropped, hpush⟩ := Option.bind_eq_some_iff.mp hf
  have hclosed : dropped.Bare := by
    refine Bare.dropCandidate (Bare.closeTo ?_ _) hdropped
    exact h.moved List.suffix_rfl rfl
  rw [← Option.some.inj hpush]
  refine Bare.push ?_ .streamEnd rfl _ _
  exact hclosed.moved List.suffix_rfl rfl

theorem Bare.fetchPlain {t t' : Tokens} (h : t.Bare) (hf : t.fetchPlain = some t') : t'.Bare := by
  unfold Tokens.fetchPlain at hf
  obtain ⟨saved, hsaved, hread⟩ := Option.bind_eq_some_iff.mp hf
  obtain ⟨⟨text, broken, cursor⟩, hplain, hpush⟩ := Option.bind_eq_some_iff.mp hread
  have hrest : cursor.rest <:+ saved.cursor.rest := readPlain_suffix hplain
  rw [← Option.some.inj hpush]
  refine Bare.push ?_ (.scalar _ _) rfl _ _
  exact (h.saveCandidate hsaved).moved hrest rfl

theorem atTriple_eq_false {c : Cursor} {char special : Char} (h : c.peek? = some char)
    (hne : (char == special) = false) : c.atTriple special = false := by
  have hsees : c.sees special = false := by simpa [Cursor.sees, h] using hne
  simp [Cursor.atTriple, hsees]

theorem Bare.fetch {t t' : Tokens} (h : t.Bare) (hf : t.fetch = some t') : t'.Bare := by
  unfold Tokens.fetch at hf
  dsimp only at hf
  by_cases hlacks : t.cursor.lacks 1 = true
  · rw [if_pos hlacks] at hf
    cases hf
  rw [if_neg hlacks] at hf
  by_cases hstarted : (!t.started) = true
  · rw [if_pos hstarted] at hf
    rw [← Option.some.inj hf]
    refine Bare.push ?_ .streamStart rfl _ _
    exact h.moved List.suffix_rfl rfl
  rw [if_neg hstarted] at hf
  obtain ⟨skipped, hskipped, hf⟩ := Option.bind_eq_some_iff.mp hf
  obtain ⟨dropped, hdropped, hf⟩ := Option.bind_eq_some_iff.mp hf
  have hclosed : (dropped.closeTo dropped.cursor.mark.column).Bare :=
    ((h.skipToToken hskipped).dropStale hdropped).closeTo _
  generalize dropped.closeTo dropped.cursor.mark.column = t at hclosed hf
  by_cases hlacks : t.cursor.lacks 4 = true
  · rw [if_pos hlacks] at hf
    cases hf
  rw [if_neg hlacks] at hf
  cases hpeek : t.cursor.peek? with
  | none =>
    rw [hpeek] at hf
    exact hclosed.fetchStreamEnd hf
  | some char =>
    have hblank : Text.isBlank char = true := hclosed.blank char (List.mem_of_getElem? hpeek)
    -- no indicator is white space, so all that can start here is a plain scalar
    have hne (special : Char) (hs : Text.isBlank special = false) : (char == special) = false := by
      rw [beq_eq_false_iff_ne]
      rintro rfl
      rw [hblank] at hs
      cases hs
    rw [hpeek] at hf
    simp only [hne '%' rfl, hne '[' rfl, hne '\x7b' rfl, hne ']' rfl, hne '\x7d' rfl, hne ',' rfl,
      hne '-' rfl, hne '?' rfl, hne ':' rfl, hne '*' rfl, hne '&' rfl, hne '!' rfl, hne '|' rfl,
      hne '>' rfl, hne '\x27' rfl, hne '"' rfl, atTriple_eq_false hpeek (hne '-' rfl),
      atTriple_eq_false hpeek (hne '.' rfl), Bool.and_false, Bool.false_and, Bool.false_eq_true,
      if_false] at hf
    split at hf
    · exact hclosed.fetchPlain hf
    · cases hf

theorem Bare.settle {fuel : Nat} {t t' : Tokens} (h : t.Bare) (hs : settle fuel t = some t') :
    t'.Bare := by
  induction fuel generalizing t with
  | zero => cases hs
  | succ fuel ih =>
    unfold Tokens.settle at hs
    split at hs
    · split at hs
      · cases hs
      · next fetched hfetched => exact ih (h.fetch hfetched) hs
    · split at hs
      · cases hs
      · next kept hkept =>
        have hkept := h.dropStale hkept
        split at hs
        · split at hs
          · cases hs
          · next fetched hfetched => exact ih (hkept.fetch hfetched) hs
        · exact Option.some.inj hs ▸ hkept

theorem Bare.head? {t t' : Tokens} {token : Token} (h : t.Bare) (hh : t.head? = some (token, t')) :
    token.kind.isBare = true ∧ t'.Bare := by
  unfold Tokens.head? at hh
  split at hh
  · cases hh
  · next settled hsettled =>
    obtain ⟨first, hfirst, heq⟩ := Option.map_eq_some_iff.mp hh
    obtain ⟨rfl, rfl⟩ := Prod.mk.inj heq
    have hbare := h.settle hsettled
    exact ⟨hbare.bare _ (List.mem_of_head? hfirst), hbare⟩

theorem Bare.next {t : Tokens} (h : t.Bare) : t.next.Bare :=
  ⟨h.blank, fun token htoken => h.bare token (List.mem_of_mem_tail htoken)⟩

end Tokens

/-! ## Events -/

def EventKind.isBare : EventKind → Bool
  | .streamEnd | .documentStart | .documentEnd | .scalar _ _ _ => true
  | _ => false

def Expect.isBare : Expect → Bool
  | .streamStart | .document _ | .documentContent | .documentEnd | .blockNode | .nothing => true
  | _ => false

namespace Reader

structure Bare (r : Reader) : Prop where
  tokens : r.tokens.Bare
  expect : r.expect.isBare = true
  outer : ∀ expect ∈ r.outer, expect.isBare = true

theorem Bare.head? {r r' : Reader} {token : Token} (h : r.Bare) (hh : r.head? = some (token, r')) :
    token.kind.isBare = true ∧ r'.Bare := by
  obtain ⟨⟨first, tokens⟩, hfirst, heq⟩ := Option.map_eq_some_iff.mp hh
  obtain ⟨rfl, rfl⟩ := Prod.mk.inj heq
  obtain ⟨hkind, htokens⟩ := h.tokens.head? hfirst
  exact ⟨hkind, htokens, h.expect, h.outer⟩

/-- Going on from the next token. -/
theorem Bare.head?_bind {γ : Type} {r : Reader} {f : Token × Reader → Option γ} {result : γ}
    (h : r.Bare) (hb : r.head?.bind f = some result) :
    ∃ token r', token.kind.isBare = true ∧ r'.Bare ∧ f (token, r') = some result := by
  obtain ⟨⟨token, r'⟩, htoken, hb⟩ := Option.bind_eq_some_iff.mp hb
  obtain ⟨hkind, hr'⟩ := h.head? htoken
  exact ⟨token, r', hkind, hr', hb⟩

theorem Bare.skip {r : Reader} (h : r.Bare) : r.skip.Bare :=
  ⟨h.tokens.next, h.expect, h.outer⟩

theorem Bare.leave {r : Reader} (h : r.Bare) : r.leave.Bare := by
  refine ⟨h.tokens, ?_, fun expect hexpect => h.outer expect (List.mem_of_mem_tail hexpect)⟩
  unfold Reader.leave
  cases houter : r.outer with
  | nil => rfl
  | cons expect rest => exact h.outer expect (houter ▸ List.mem_cons_self)

theorem Bare.readProperties {r r' : Reader} {properties : Properties} {before : Option Mark}
    (h : r.Bare) (hp : r.readProperties = some (properties, before, r')) :
    before = none ∧ r'.Bare := by
  unfold Reader.readProperties at hp
  obtain ⟨token, r₁, hkind, h₁, hp⟩ := h.head?_bind hp
  dsimp only at hp
  split at hp
  · next hk => simp [hk, TokenKind.isBare] at hkind
  · next hk => simp [hk, TokenKind.isBare] at hkind
  · obtain ⟨-, rfl, rfl⟩ := by simpa using hp
    exact ⟨rfl, h₁⟩

theorem Bare.readNode {r r' : Reader} {event : Event} (h : r.Bare)
    (hn : readNode true false r = some (event, r')) : event.kind.isBare = true ∧ r'.Bare := by
  unfold Reader.readNode at hn
  obtain ⟨token, r₁, hkind, h₁, hn⟩ := h.head?_bind hn
  dsimp only at hn
  split at hn
  · next hk => simp [hk, TokenKind.isBare] at hkind
  obtain ⟨⟨properties, before, r₂⟩, hproperties, hn⟩ := Option.bind_eq_some_iff.mp hn
  obtain ⟨rfl, h₂⟩ := h₁.readProperties hproperties
  obtain ⟨second, r₃, hsecond, h₃, hn⟩ := h₂.head?_bind hn
  dsimp only at hn
  obtain hk | hk | hk | ⟨text, style, hk⟩ := TokenKind.cases_of_isBare hsecond
  all_goals rw [hk] at hn
  · cases hn
  · cases hn
  · cases hn
  · obtain ⟨rfl, rfl⟩ := by simpa using hn
    exact ⟨rfl, h₃.skip.leave⟩

theorem Bare.skipDocumentEnds {fuel : Nat} {r r' : Reader} (h : r.Bare)
    (hs : skipDocumentEnds fuel r = some r') : r'.Bare := by
  cases fuel with
  | zero => exact Option.some.inj hs ▸ h
  | succ fuel =>
    unfold Reader.skipDocumentEnds at hs
    split at hs
    · cases hs
    · next token r₁ htoken =>
      obtain ⟨hkind, h₁⟩ := h.head? htoken
      split at hs
      · next hk => simp [hk, TokenKind.isBare] at hkind
      · exact Option.some.inj hs ▸ h₁

theorem Bare.readDocument {first : Bool} {r r' : Reader} {event : Event} (h : r.Bare)
    (hd : readDocument first r = some (event, r')) : event.kind.isBare = true ∧ r'.Bare := by
  unfold Reader.readDocument at hd
  cases first with
  | true =>
    obtain ⟨token, r₁, hkind, h₁, hd⟩ := h.head?_bind hd
    dsimp only at hd
    split at hd
    · obtain ⟨rfl, rfl⟩ := by simpa using hd
      exact ⟨rfl, h₁.tokens.next, rfl, h₁.outer⟩
    · next hk => simp [hk, TokenKind.isBare] at hkind
    · next hk => simp [hk, TokenKind.isBare] at hkind
    · obtain ⟨rfl, rfl⟩ := by simpa using hd
      exact ⟨rfl, h₁.tokens, rfl, List.forall_mem_cons.mpr ⟨rfl, h₁.outer⟩⟩
  | false =>
    obtain ⟨r₁, hskipped, hd⟩ := Option.bind_eq_some_iff.mp hd
    obtain ⟨token, r₂, hkind, h₂, hd⟩ := (h.skipDocumentEnds hskipped).head?_bind hd
    dsimp only at hd
    split at hd
    · obtain ⟨rfl, rfl⟩ := by simpa using hd
      exact ⟨rfl, h₂.tokens.next, rfl, h₂.outer⟩
    · next hk => simp [hk, TokenKind.isBare] at hkind
    · next hk => simp [hk, TokenKind.isBare] at hkind
    · simp at hd

theorem Bare.readDocumentEnd {r r' : Reader} {event : Event} (h : r.Bare)
    (hd : readDocumentEnd r = some (event, r')) : event.kind.isBare = true ∧ r'.Bare := by
  unfold Reader.readDocumentEnd at hd
  obtain ⟨token, r₁, hkind, h₁, hd⟩ := h.head?_bind hd
  dsimp only at hd
  split at hd
  · next hk => simp [hk, TokenKind.isBare] at hkind
  · obtain ⟨rfl, rfl⟩ := by simpa using hd
    exact ⟨rfl, h₁.tokens, rfl, h₁.outer⟩

theorem Bare.readContent {r r' : Reader} {event : Event} (h : r.Bare)
    (he : r.expect = .documentContent) (hn : r.next = some (event, r')) :
    event.kind.isBare = true ∧ r'.Bare := by
  unfold Reader.next at hn
  rw [he] at hn
  obtain ⟨token, r₁, hkind, h₁, hn⟩ := h.head?_bind hn
  dsimp only at hn
  split at hn
  case h_5 => exact h₁.readNode hn
  all_goals
    obtain ⟨rfl, rfl⟩ := by simpa [emptyScalar] using hn
    exact ⟨rfl, h₁.leave⟩

theorem Bare.next {r r' : Reader} {event : Event} (h : r.Bare)
    (hn : r.next = some (event, r')) : event.kind.isBare = true ∧ r'.Bare := by
  have hexpect := h.expect
  cases he : r.expect with
  | documentContent => exact h.readContent he hn
  | streamStart =>
    rw [Reader.next, he] at hn
    obtain ⟨token, r₁, -, h₁, hn⟩ := h.head?_bind hn
    exact h₁.skip.readDocument hn
  | document first =>
    rw [Reader.next, he] at hn
    exact h.readDocument hn
  | documentEnd =>
    rw [Reader.next, he] at hn
    exact h.readDocumentEnd hn
  | blockNode =>
    rw [Reader.next, he] at hn
    exact h.readNode hn
  | nothing =>
    rw [Reader.next, he] at hn
    cases hn
  | _ => simp [he, Expect.isBare] at hexpect

theorem Bare.run {fuel : Nat} {before : List Event} {r : Reader} (h : r.Bare)
    (hbefore : ∀ event ∈ before, event.kind.isBare = true) :
    ∀ event ∈ run fuel before r, event.kind.isBare = true := by
  induction fuel generalizing before r with
  | zero => simpa [Reader.run] using hbefore
  | succ fuel ih =>
    unfold Reader.run
    cases hnext : r.next with
    | none => simpa using hbefore
    | some pair =>
      obtain ⟨event, r'⟩ := pair
      obtain ⟨hevent, hr'⟩ := h.next hnext
      have hmore : ∀ e ∈ event :: before, e.kind.isBare = true :=
        List.forall_mem_cons.mpr ⟨hevent, hbefore⟩
      dsimp only
      split
      · exact fun e he => hmore e (List.mem_reverse.mp he)
      · exact ih hr' hmore

end Reader

theorem isBare_of_mem_events {text : List Char} (h : ∀ char ∈ text, Text.isBlank char = true) :
    ∀ event ∈ events text, event.kind.isBare = true := by
  have hreader : (Reader.ofText text).Bare :=
    ⟨⟨Cursor.blank_ofText h, List.forall_mem_nil _⟩, rfl, List.forall_mem_nil _⟩
  exact hreader.run (List.forall_mem_nil _)

/-! ## Documents -/

namespace Loading

/-- No collection has been started. -/
structure Bare (l : Loading) : Prop where
  unfinished : l.unfinished = []
  root : ∀ mark entries, l.root ≠ some (.mapping mark entries)

theorem add_of_unfinished {l : Loading} (h : l.unfinished = []) (place : Nat) (node : Tree) :
    (l.add place node).unfinished = [] ∧ (l.add place node).root = some node := by
  unfold add
  split <;> simp [h]

theorem Bare.scalar {l : Loading} (h : l.Bare) (anchor : Option String) (mark : Mark)
    (tag : Option String) (style : Style) (text : String) :
    ((l.mark anchor).add (l.mark anchor).count (.scalar mark tag style text)).tick.Bare := by
  have hmark : (l.mark anchor).unfinished = [] := by cases anchor <;> exact h.unfinished
  obtain ⟨hunfinished, hroot⟩ :=
    add_of_unfinished hmark (l.mark anchor).count (.scalar mark tag style text)
  exact ⟨hunfinished, by simp [tick, hroot]⟩

theorem Bare.load {l : Loading} (h : l.Bare) {all : List Event}
    (hall : ∀ event ∈ all, event.kind.isBare = true) : (load l all).1.Bare := by
  induction all generalizing l with
  | nil => exact ⟨h.unfinished, h.root⟩
  | cons event rest ih =>
    obtain ⟨hevent, hrest⟩ := List.forall_mem_cons.mp hall
    obtain ⟨kind, mark⟩ := event
    cases kind with
    | streamEnd => exact h
    | documentStart => exact ih h hrest
    | documentEnd => exact h
    | scalar properties text style => exact ih (h.scalar _ _ _ _ _) hrest
    | _ => cases hevent

end Loading

/-- A text of white space holds no mapping. -/
theorem root_ne_mapping_of_isBlank {text : List Char}
    (h : ∀ char ∈ text, Text.isBlank char = true) (mark : Mark) (entries : List (Tree × Tree)) :
    (Document.ofText text).root ≠ some (.mapping mark entries) := by
  have hloaded : (Loading.load {} (events text)).1.Bare :=
    Loading.Bare.load ⟨rfl, by simp⟩ (isBare_of_mem_events h)
  unfold Document.ofText
  dsimp only
  generalize (Loading.load {} (events text)).1 = loaded at hloaded
  split
  · rw [hloaded.unfinished, Loading.abandon]
    split
    · simp
    · exact hloaded.root mark entries
  · exact hloaded.root mark entries

end Yaml

end Crosscheck
