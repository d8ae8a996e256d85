import ScanIndex.Sql.Token

/-!
# Splitting rendered tokens

Splitting the text of a list of tokens gives the list back (`lex?_render`), also when the text
stands between other texts, as long as no word runs into its neighbour (`lexChars_renderChars`).
-/

namespace ScanIndex.Sql.Token

/-- A token that can be told apart in a text: a word has characters, and only those of words. -/
def IsProper : Token → Prop
  | word w => w.toList ≠ [] ∧ w.toList.all isWordChar = true
  | _ => True

instance : DecidablePred IsProper
  | word w => inferInstanceAs (Decidable (w.toList ≠ [] ∧ w.toList.all isWordChar = true))
  | opening => .isTrue trivial
  | closing => .isTrue trivial
  | comma => .isTrue trivial
  | hole => .isTrue trivial
  | operator _ => .isTrue trivial

/-- No character of a word stands at the front. -/
def Breaks : List Char → Prop
  | [] => True
  | c :: _ => isWordChar c = false

theorem blank_breaks (cs : List Char) :
  Breaks (' ' :: cs)
  := by
  change isWordChar ' ' = false
  decide

/-! ### Single steps -/

@[simp] theorem flush_nil (ts : List Token) :
  flush [] ts = ts
  := rfl

theorem flush_reverse {cs : List Char} (h : cs ≠ []) (ts : List Token) :
  flush cs.reverse ts = word (String.ofList cs) :: ts
  := by
  cases hr : cs.reverse with
  | nil => exact absurd (List.reverse_eq_nil_iff.1 hr) h
  | cons c r =>
    rw [flush, ← hr, List.reverse_reverse]
    simp

/-- The characters of a word are read into the word. -/
theorem lexChars_wordChars {cs : List Char} (h : ∀ c ∈ cs, isWordChar c = true)
    (w rest : List Char) :
  lexChars w (cs ++ rest) = lexChars (cs.reverse ++ w) rest
  := by
  induction cs generalizing w with
  | nil => rfl
  | cons c cs ih =>
    rw [List.cons_append, lexChars_cons_wordChar (h c List.mem_cons_self),
      ih (fun d hd => h d (List.mem_cons_of_mem c hd)), List.reverse_cons, List.append_assoc]
    rfl

/-- A word ends where no character of a word follows. -/
theorem lexChars_of_breaks {cs : List Char} (h : Breaks cs) (w : List Char) :
  lexChars w cs = (lexChars [] cs).map (flush w)
  := by
  fun_cases lexChars w cs with
  | case1 => rfl
  | case10 c cs _ _ _ _ _ _ _ _ hc =>
    rw [Breaks, hc] at h
    cases h
  | case11 c cs hb ho hk hm hh he hl hg hc =>
    rw [lexChars, if_neg hc]
    · rfl
    all_goals assumption
  | _ => simp [lexChars, Function.comp_def]

/-- A token is read off the front of a text, unless it is a word that runs on. -/
theorem lexChars_chars {t : Token} (ht : t.IsProper) {cs : List Char}
    (h : ∀ w, t = word w → Breaks cs) :
  lexChars [] (t.chars ++ cs) = (lexChars [] cs).map (t :: ·)
  := by
  cases t with
  | word w =>
    obtain ⟨hne, hw⟩ := ht
    rw [List.all_eq_true] at hw
    rw [chars, lexChars_wordChars hw, List.append_nil, lexChars_of_breaks (h w rfl)]
    congr
    funext ts
    rw [flush_reverse hne, String.ofList_toList]
  | operator o => cases o <;> simp [chars, lexChars, flush_nil]
  | _ => simp [chars, lexChars, flush_nil]

/-! ### Lists of tokens -/

/-- Behind a token that touches its successor, or behind a blank, no word runs on. -/
theorem breaks_of_touches {t u : Token} (h : t.touches u = true) (w : String) (ht : t = word w)
    (cs : List Char) :
  Breaks (u.chars ++ cs)
  := by
  subst ht
  cases u <;> simp [touches] at h <;> simp [chars, Breaks] <;> decide

/-- The text of a list of tokens is split into them, in front of any text that no word runs
into. -/
theorem lexChars_renderChars {ts : List Token} (h : ∀ t ∈ ts, t.IsProper) {cs : List Char}
    (hcs : Breaks cs) :
  lexChars [] (renderChars ts ++ cs) = (lexChars [] cs).map (ts ++ ·)
  := by
  fun_induction renderChars ts with
  | case1 => simp
  | case2 t => rw [lexChars_chars (h t List.mem_cons_self) (fun _ _ => hcs)]; rfl
  | case3 t u ts ih =>
    have ih := ih fun v hv => h v (List.mem_cons_of_mem t hv)
    have ht := h t List.mem_cons_self
    rw [List.append_assoc, List.append_assoc]
    by_cases htu : t.touches u = true
    · have hb : ∀ w, t = word w → Breaks ([] ++ (renderChars (u :: ts) ++ cs)) := by
        intro w hw
        cases ts with
        | nil => apply breaks_of_touches htu w hw cs
        | cons v ts =>
          rw [renderChars, List.append_assoc, List.append_assoc]
          apply breaks_of_touches htu w hw _
      rw [if_pos htu, lexChars_chars ht hb, List.nil_append, ih, Option.map_map]
      rfl
    · have hb : ∀ w, t = word w → Breaks ([' '] ++ (renderChars (u :: ts) ++ cs)) :=
        fun _ _ => blank_breaks _
      rw [if_neg htu, lexChars_chars ht hb]
      simp only [List.cons_append, List.nil_append, lexChars, ih, Option.map_map]
      rfl

theorem flush_append (w : List Char) (ts us : List Token) :
  flush w (ts ++ us) = flush w ts ++ us
  := by
  cases w <;> rfl

theorem flush_cons_append (w : List Char) (t : Token) (ts us : List Token) :
  flush w (t :: (ts ++ us)) = flush w (t :: ts) ++ us
  := by
  cases w <;> rfl

/-- A blank parts the tokens of the texts before and behind it. -/
theorem lexChars_append_blank (w cs ds : List Char) :
  lexChars w (cs ++ ' ' :: ds) = (lexChars w cs).bind fun ts => (lexChars [] ds).map (ts ++ ·)
  := by
  fun_induction lexChars w cs with
  | case1 w =>
    simp only [List.nil_append, lexChars, Option.bind_some]
    congr
    funext ts
    rw [← flush_append, List.nil_append]
  | case10 w c cs _ _ _ _ _ _ _ _ hc ih =>
    rw [List.cons_append, lexChars_cons_wordChar hc, ih]
  | case11 w c cs _ _ _ _ _ _ hl hg hc =>
    rw [List.cons_append, lexChars, if_neg hc]
    · rfl
    · assumption
    · assumption
    · assumption
    · assumption
    · assumption
    · assumption
    · cases cs <;> simp_all
    · cases cs <;> simp_all
  | _ =>
    simp_all [lexChars, Function.comp_def, Option.map_bind, Option.bind_map, flush_append,
      flush_cons_append]

/-- Splitting the text of a list of tokens gives the list back. -/
theorem lex?_render {ts : List Token} (h : ∀ t ∈ ts, t.IsProper) :
  lex? (render ts) = some ts
  := by
  have hend : Breaks [] := trivial
  have hlex := lexChars_renderChars h hend
  rw [List.append_nil] at hlex
  rw [lex?, render, String.toList_ofList, hlex]
  simp [lexChars]

/-! ### Texts without comparisons -/

/-- The character can be split off whatever follows it. -/
def isPlain (c : Char) : Bool := isWordChar c || [' ', '(', ')', ',', '?', '='].contains c

/-- A text of plain characters can be split into tokens. -/
theorem exists_lexChars_eq {cs : List Char} (h : cs.all isPlain = true) (w : List Char) :
  ∃ ts, lexChars w cs = some ts
  := by
  induction cs generalizing w with
  | nil => exact ⟨_, rfl⟩
  | cons c cs ih =>
    rw [List.all_cons, Bool.and_eq_true] at h
    obtain ⟨hc, hcs⟩ := h
    have ih := ih hcs
    rw [isPlain, Bool.or_eq_true] at hc
    rcases hc with hc | hc
    · rw [lexChars_cons_wordChar hc]
      apply ih (c :: w)
    · obtain ⟨ts, hts⟩ := ih []
      simp only [List.contains_cons, List.contains_nil, Bool.or_false, Bool.or_eq_true,
        beq_iff_eq] at hc
      rcases hc with rfl | rfl | rfl | rfl | rfl | rfl
      all_goals simp [lexChars, hts]

/-! ### Counting holes -/

theorem count_mark_chars {t : Token} (h : t.IsProper) :
  t.chars.count '?' = [t].count hole
  := by
  cases t with
  | word w =>
    rw [chars, List.count_eq_zero.2]
    · rfl
    · intro hc
      exact absurd (List.all_eq_true.1 h.2 _ hc) (by decide)
  | operator o => cases o <;> rfl
  | _ => rfl

/-- The text of a list of tokens has a question mark for every hole. -/
theorem count_mark_renderChars {ts : List Token} (h : ∀ t ∈ ts, t.IsProper) :
  (renderChars ts).count '?' = ts.count hole
  := by
  fun_induction renderChars ts with
  | case1 => rfl
  | case2 t => apply count_mark_chars (h t List.mem_cons_self)
  | case3 t u ts ih =>
    have ih := ih fun v hv => h v (List.mem_cons_of_mem t hv)
    have hblank : (if t.touches u then [] else [' ']).count '?' = 0 := by split <;> rfl
    rw [List.count_append, List.count_append, ih, hblank, count_mark_chars (h t List.mem_cons_self),
      Nat.add_zero, ← List.count_append]
    rfl

end ScanIndex.Sql.Token
