import FrameHost.Naming

/-!
# Names put in for `$parent`

The name of a parent that is put in for `$parent` is read as a replacement text, in which a backslash starts
an escape. What is meant is said by `Replaced`: the name itself takes the place of each word, from the left.
The two agree for the names that read as themselves, and for no others: every escape that is read as a
character stands for a text that is longer, and what refers to the word that is replaced comes out differently
for `$parent` and `$PARENT`.

* `Naming.Replaced`: a text with a name in the place of every word.
* `Naming.Verbatim`: the names that read as themselves.
* `Naming.expandChars_eq_iff`: **a text that reads as itself is put in as it is**.
* `Naming.verbatim_of_fill`: **a name that is put in as it is for two words that differ, reads as itself**.
-/

namespace FrameHost.Naming

variable {p w w' cs out out' : List Char} {c : Char} {m : Mark} {ms : List Mark} {ps : List Piece}

/-! ## What is meant -/

/-- A text is the word that stands for the name of the parent, in any letter case. -/
def IsToken (w : List Char) : Prop := w.map Char.toLower = token

/-- A text with every word in it replaced, from the left; what has been replaced is not looked at again. -/
inductive Replaced (name : List Char) : List Char → List Char → Prop
  | done : Replaced name [] []
  | word {w cs out : List Char} (hw : IsToken w) (rest : Replaced name cs out) :
      Replaced name (w ++ cs) (name ++ out)
  | kept {c : Char} {cs out : List Char} (hc : ∀ w rest, IsToken w → c :: cs ≠ w ++ rest)
      (rest : Replaced name cs out) : Replaced name (c :: cs) (c :: out)

/-- A name that means itself as a replacement text: every backslash in it stands before a character that is
neither a backslash nor a letter or a digit of ASCII. -/
def Verbatim (p : List Char) : Prop :=
  ∀ before after, p = before ++ '\\' :: after →
    ∃ c rest, after = c :: rest ∧ c ≠ '\\' ∧ c.isAlphanum = false

/-! ## Words -/

theorem IsToken.length (h : IsToken w) : w.length = token.length := by
  rw [← h, List.length_map]

theorem startsWithToken_iff : startsWithToken cs = true ↔ ∃ w rest, IsToken w ∧ cs = w ++ rest := by
  unfold startsWithToken
  rw [beq_iff_eq]
  constructor
  · intro h
    exact ⟨_, _, h, (List.take_append_drop _ _).symm⟩
  · rintro ⟨w, rest, hw, rfl⟩
    rw [← hw.length, List.take_left' rfl]
    exact hw

theorem fill_map_char (matched p : List Char) : fill matched (p.map .char) = p := by
  unfold fill
  rw [List.flatMap_map]
  exact List.flatMap_singleton' p

theorem expandChars_of_token (hw : IsToken w) (ps : List Piece) :
    expandChars ps (w ++ cs) = fill w ps ++ expandChars ps cs := by
  cases w with
  | nil => cases hw.length
  | cons c w =>
    have hstarts : startsWithToken (c :: (w ++ cs)) = true := startsWithToken_iff.2 ⟨_, _, hw, rfl⟩
    have hlength : w.length = token.length - 1 := by rw [← hw.length]; rfl
    rw [List.cons_append, expandChars, if_pos hstarts, ← List.cons_append, List.take_left' hw.length,
      List.drop_left' hlength]

/-- **A text that means itself is put in as it is.** -/
theorem expandChars_eq_iff : expandChars (p.map .char) cs = out ↔ Replaced p cs out := by
  constructor
  · rintro rfl
    fun_induction expandChars (p.map .char) cs with
    | case1 => exact .done
    | case2 c cs h ih =>
      obtain ⟨w, rest, hw, heq⟩ := startsWithToken_iff.1 h
      rw [fill_map_char]
      have htail : cs.drop (token.length - 1) = rest := by
        have := congrArg (List.drop token.length) heq
        rwa [List.drop_left' hw.length] at this
      rw [heq]
      exact .word hw (htail ▸ ih)
    | case3 c cs h ih =>
      refine .kept (fun w rest hw heq => h ?_) ih
      exact startsWithToken_iff.2 ⟨w, rest, hw, heq⟩
  · intro h
    induction h with
    | done => rw [expandChars]
    | word hw _ ih => rw [expandChars_of_token hw, fill_map_char, ih]
    | @kept c cs out hc _ ih =>
      have hnot : ¬ startsWithToken (c :: cs) = true := fun h => by
        obtain ⟨w, rest, hw, heq⟩ := startsWithToken_iff.1 h
        exact hc w rest hw heq
      rw [expandChars, if_neg hnot, ih]

/-! ## Replacement texts -/

/-- The text that was cut into marks. -/
def Mark.text : Mark → List Char
  | .plain c => [c]
  | .escaped c => ['\\', c]
  | .lone => ['\\']

/-- Whether a mark stands for itself. -/
def Mark.isVerbatim : Mark → Bool
  | .plain _ => true
  | .escaped c => c != '\\' && !c.isAlphanum
  | .lone => false

/-- What marks say is nothing but the text. -/
theorem flatMap_text_marks (p : List Char) : (marks p).flatMap Mark.text = p := by
  fun_induction marks p with
  | case1 => rfl
  | case2 => rfl
  | case3 c cs ih => simp [Mark.text, ih]
  | case4 c cs _ _ ih => simp [Mark.text, ih]

theorem verbatim_nil : Verbatim [] := fun before after h => by cases before <;> cases h

theorem verbatim_cons : Verbatim (c :: cs) ↔
    (c = '\\' → ∃ d rest, cs = d :: rest ∧ d ≠ '\\' ∧ d.isAlphanum = false) ∧ Verbatim cs := by
  constructor
  · intro h
    refine ⟨fun hc => h [] cs (hc ▸ rfl), fun before after hcs => ?_⟩
    exact h (c :: before) after (congrArg (c :: ·) hcs)
  · rintro ⟨hfirst, hrest⟩ before after heq
    cases before with
    | nil =>
      obtain ⟨hc, hcs⟩ := List.cons.inj heq
      exact hcs ▸ hfirst hc
    | cons b before => exact hrest before after (List.cons.inj heq).2

theorem verbatim_iff : Verbatim p ↔ ∀ m ∈ marks p, m.isVerbatim = true := by
  fun_induction marks p with
  | case1 => simp [verbatim_nil]
  | case2 => simp [verbatim_cons, Mark.isVerbatim]
  | case3 c cs ih =>
    have plain : c ≠ '\\' → (Verbatim (c :: cs) ↔ Verbatim cs) := fun hc => by
      rw [verbatim_cons, and_iff_right fun h => absurd h hc]
    rw [verbatim_cons, List.forall_mem_cons, ← ih]
    rw [Mark.isVerbatim, Bool.and_eq_true, bne_iff_ne, Bool.not_eq_true']
    constructor
    · rintro ⟨hfirst, hrest⟩
      obtain ⟨d, rest, hd, hne, hal⟩ := hfirst rfl
      cases hd
      exact ⟨⟨hne, hal⟩, (plain hne).1 hrest⟩
    · rintro ⟨⟨hne, hal⟩, hrest⟩
      exact ⟨fun _ => ⟨c, cs, rfl, hne, hal⟩, (plain hne).2 hrest⟩
  | case4 c cs hlone hescaped ih =>
    have hc : c ≠ '\\' := by
      rintro rfl
      cases cs with
      | nil => exact hlone rfl rfl
      | cons d cs => exact hescaped d cs rfl rfl
    rw [verbatim_cons, and_iff_right fun h => absurd h hc, List.forall_mem_cons, ih]
    exact (and_iff_right rfl).symm

/-! ## Reading a replacement text -/

theorem control?_eq_none (h : c.isAlphanum = false) (hc : c ≠ '\\') : control? c = none := by
  unfold control?
  split <;> first | rfl | exact absurd rfl hc | cases h

theorem escape_of_isVerbatim (h : (Mark.escaped c).isVerbatim = true) :
    escape c = .ok [.char '\\', .char c] := by
  simp only [Mark.isVerbatim, Bool.and_eq_true, bne_iff_ne, Bool.not_eq_true'] at h
  have halpha : c.isAlpha = false := (Bool.or_eq_false_iff.1 h.2).1
  rw [escape, control?_eq_none h.2 h.1]
  simp [halpha]

/-- Marks that stand for themselves are read as their text. -/
theorem parseMarks_of_isVerbatim (h : ∀ m ∈ ms, m.isVerbatim = true) :
    parseMarks ms = .ok ((ms.flatMap Mark.text).map .char) := by
  induction ms with
  | nil => rw [parseMarks]; rfl
  | cons m ms ih =>
    obtain ⟨hm, hms⟩ := List.forall_mem_cons.1 h
    have rest := ih hms
    cases m with
    | lone => cases hm
    | plain c => rw [parseMarks, rest]; rfl
    | escaped c =>
      have hal : c.isAlphanum = false := by
        simp only [Mark.isVerbatim, Bool.and_eq_true, Bool.not_eq_true'] at hm
        exact hm.2
      have hg : c ≠ 'g' := by rintro rfl; cases hal
      have hzero : c ≠ '0' := by rintro rfl; cases hal
      have hdigit : c.isDigit = false := (Bool.or_eq_false_iff.1 hal).2
      rw [parseMarks, if_neg hg, if_neg hzero, hdigit, escape_of_isVerbatim hm, rest]
      · rfl
      · exact fun _ _ h => hg h

theorem octalRun_suffix (value count : Nat) (ms : List Mark) : (octalRun value count ms).2 <:+ ms := by
  fun_induction octalRun value count ms with
  | case1 _ _ _ _ _ _ ih => exact ih.trans (List.suffix_cons ..)
  | case2 => exact List.suffix_refl _
  | case3 => exact List.suffix_refl _

theorem octalChar_suffix {rest : List Mark} {x : Piece} (h : octalChar c ms = .ok (x, rest)) :
    rest <:+ ms := by
  unfold octalChar at h
  split at h
  · split at h
    · dsimp only at h
      split at h
      · cases h
        exact (List.suffix_cons ..).trans (List.suffix_cons ..)
      · cases h
    · cases h
  · cases h

/-- How long the text was that was cut into marks. -/
def width (ms : List Mark) : Nat := (ms.flatMap Mark.text).length

theorem width_cons (m : Mark) (ms : List Mark) : width (m :: ms) = m.text.length + width ms := by
  rw [width, List.flatMap_cons, List.length_append, width]

theorem width_le_of_suffix {rest : List Mark} (h : rest <:+ ms) : width rest ≤ width ms := by
  obtain ⟨before, rfl⟩ := h
  rw [width, width, List.flatMap_append, List.length_append]
  exact Nat.le_add_left ..

theorem exists_of_parse {rest : List Mark} (front : List Piece)
    (h : (do .ok (front ++ (← parseMarks rest))) = Except.ok ps) :
    ∃ qs, parseMarks rest = .ok qs ∧ ps = front ++ qs := by
  cases hq : parseMarks rest with
  | error => rw [hq] at h; cases h
  | ok qs => rw [hq] at h; cases h; exact ⟨qs, rfl, rfl⟩

theorem length_le_width (hp : parseMarks ms = .ok ps)
    (h : (∀ m ∈ ms, m.isVerbatim = true) ∨ ps.length < width ms) : ps.length ≤ width ms := by
  rcases h with h | h
  · rw [parseMarks_of_isVerbatim h] at hp
    cases hp
    exact Nat.le_of_eq (List.length_map _)
  · exact Nat.le_of_lt h

/-- An escape that stands for one character is shorter than its text. -/
theorem length_lt_width {x : Piece} {rest : List Mark} (hrest : rest <:+ ms) (hp : parseMarks rest = .ok ps)
    (h : (∀ m ∈ rest, m.isVerbatim = true) ∨ ps.length < width rest) :
    (x :: ps).length < width (.escaped c :: ms) := by
  have hle := length_le_width hp h
  have hwidth := width_le_of_suffix hrest
  rw [width_cons, Mark.text, List.length_cons, List.length_cons, List.length_singleton]
  omega

/-- A text that is read without a reference to the text that is replaced, stands for itself or for something
shorter. -/
theorem isVerbatim_or_length_lt (h : parseMarks ms = .ok ps) (hm : .matched ∉ ps) :
    (∀ m ∈ ms, m.isVerbatim = true) ∨ ps.length < width ms := by
  fun_induction parseMarks ms generalizing ps with
  | case1 => exact .inl fun _ h => nomatch h
  | case2 => cases h
  | case3 c ms ih =>
    obtain ⟨qs, hq, rfl⟩ := exists_of_parse [.char c] h
    rcases ih hq (List.not_mem_of_not_mem_cons hm) with hv | hlt
    · exact .inl (List.forall_mem_cons.2 ⟨rfl, hv⟩)
    · right
      rw [width_cons, Mark.text]
      simp only [List.length_append, List.length_cons, List.length_nil]
      omega
  | case4 => cases h
  | case5 ms name rest hname ih =>
    -- the only group is the text that is replaced
    unfold group at h
    split at h
    · cases h
    split at h
    · cases h
    split at h
    · obtain ⟨qs, -, rfl⟩ := exists_of_parse [.matched] h
      exact absurd List.mem_cons_self hm
    · cases h
  | case6 => cases h
  | case7 ms =>
    rename_i ih
    obtain ⟨qs, hq, rfl⟩ := exists_of_parse [.char _] h
    exact .inr (length_lt_width (octalRun_suffix ..) hq (ih hq (List.not_mem_of_not_mem_cons hm)))
  | case8 => cases h
  | case9 c ms _ _ _ _ x rest hoctal ih =>
    obtain ⟨qs, hq, rfl⟩ := exists_of_parse [x] h
    exact .inr (length_lt_width (octalChar_suffix hoctal) hq (ih hq (List.not_mem_of_not_mem_cons hm)))
  | case10 c ms _ _ _ hdigit ih =>
    unfold escape at h
    cases hc : control? c with
    | some d =>
      rw [hc] at h
      obtain ⟨qs, hq, rfl⟩ := exists_of_parse [.char d] h
      exact .inr (length_lt_width (List.suffix_refl _) hq (ih hq (List.not_mem_of_not_mem_cons hm)))
    | none =>
      rw [hc] at h
      dsimp only at h
      split at h
      · cases h
      · next halpha =>
        obtain ⟨qs, hq, rfl⟩ := exists_of_parse [.char '\\', .char c] h
        rcases ih hq fun hmem => hm (List.mem_append_right _ hmem) with hv | hlt
        · refine .inl (List.forall_mem_cons.2 ⟨?_, hv⟩)
          have hne : c ≠ '\\' := by rintro rfl; cases hc
          simp [Mark.isVerbatim, Char.isAlphanum, hne, halpha, hdigit]
        · right
          rw [width_cons, Mark.text]
          simp only [List.length_append, List.length_cons, List.length_nil]
          omega

/-! ## Names that read as themselves -/

theorem Replaced.unique (h : Replaced p cs out) (h' : Replaced p cs out') :
    out = out' := (expandChars_eq_iff.2 h).symm.trans (expandChars_eq_iff.2 h')

theorem Replaced.of_token (hw : IsToken w) : Replaced p w p := by
  have h : Replaced p (w ++ []) (p ++ []) := .word hw .done
  rwa [List.append_nil, List.append_nil] at h

theorem parse_of_verbatim {name : String} (h : Verbatim name.toList) :
    parse name = .ok (name.toList.map .char) := by
  rw [parse, parseMarks_of_isVerbatim (verbatim_iff.1 h), flatMap_text_marks]

theorem fill_cons (w : List Char) (x : Piece) (ps : List Piece) :
    fill w (x :: ps) = fill w [x] ++ fill w ps := by
  rw [← List.singleton_append, fill, List.flatMap_append]
  rfl

theorem length_fill (hm : .matched ∉ ps) : (fill w ps).length = ps.length := by
  induction ps with
  | nil => rfl
  | cons x ps ih =>
    cases x with
    | char c => exact congrArg (· + 1) (ih (List.not_mem_of_not_mem_cons hm))
    | matched => exact absurd List.mem_cons_self hm

/-- What refers to the text that is replaced tells two such texts apart. -/
theorem eq_of_fill (h : fill w ps = fill w' ps) (hlength : w.length = w'.length) (hm : .matched ∈ ps) :
    w = w' := by
  induction ps with
  | nil => cases hm
  | cons x ps ih =>
    rw [fill_cons w, fill_cons w'] at h
    cases x with
    | char c =>
      refine ih (List.append_cancel_left h) ?_
      exact (List.mem_cons.1 hm).resolve_left fun h => by cases h
    | matched =>
      have single (w : List Char) : fill w [.matched] = w := List.append_nil w
      rw [single, single] at h
      exact (List.append_inj h hlength).1

/-- **A replacement text that puts itself in for two words that differ, means itself.** -/
theorem verbatim_of_fill {name : String} (hp : parse name = .ok ps) (hw : fill w ps = name.toList)
    (hw' : fill w' ps = name.toList) (hlength : w.length = w'.length) (hne : w ≠ w') :
    Verbatim name.toList := by
  have hm : .matched ∉ ps := fun hm => hne (eq_of_fill (hw.trans hw'.symm) hlength hm)
  have hlength : ps.length = width (marks name.toList) := by
    rw [width, flatMap_text_marks, ← hw, length_fill hm]
  refine verbatim_iff.2 ((isVerbatim_or_length_lt hp hm).resolve_right fun hlt => ?_)
  exact absurd hlength (Nat.ne_of_lt hlt)

/-- The name that is put in for the word, when it is asked for alone. -/
theorem expandChars_token (hw : IsToken w) (ps : List Piece) : expandChars ps w = fill w ps := by
  have h : expandChars ps (w ++ []) = fill w ps ++ expandChars ps [] := expandChars_of_token hw ps
  rwa [List.append_nil, expandChars, List.append_nil] at h

end FrameHost.Naming
