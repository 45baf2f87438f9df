import Mathlib.Data.List.Basic

/-!
# Text — the tokens of a shell script

How a POSIX shell splits a text into tokens, before it looks at the grammar.

* **`Token`** — words, operators, IO numbers, newlines; comments are kept, so that nothing of the
  text disappears. A word is a list of pieces: characters, quoted or not, and parameters.
* **`step` / `run` / `tokenize`** — one character at a time. Here-documents and the substitutions
  `${`, `$(` and the backquote are refused.
* **`tokenize_blank` / `tokenize_newline`** — where a text has been read to the end of a token, the
  rest is read as if it stood alone.
* **`Token.lexeme`** — a token after quote removal: a plain word is its text.
-/

namespace Text.Shell

/-! ## Tokens

The tokens of the shell grammar, with comments beside them. A word keeps for each of its characters
whether it was quoted. -/

/-- The operators of the shell grammar. Those that open a here-document are among them, so that the
longest operator is found; `operatorToken` then refuses them. -/
inductive Operator where
  | and | andIf | or | orIf | semi | dsemi | less | dless | dlessDash | lessAnd | lessGreat
  | great | dgreat | greatAnd | clobber | lparen | rparen
  deriving DecidableEq

/-- The operator of one character. -/
def Operator.ofChar : Char → Option Operator
  | '&' => some .and
  | '|' => some .or
  | ';' => some .semi
  | '<' => some .less
  | '>' => some .great
  | '(' => some .lparen
  | ')' => some .rparen
  | _ => none

/-- The operator that one more character makes. -/
def Operator.extend : Operator → Char → Option Operator
  | .and, '&' => some .andIf
  | .or, '|' => some .orIf
  | .semi, ';' => some .dsemi
  | .less, '<' => some .dless
  | .less, '&' => some .lessAnd
  | .less, '>' => some .lessGreat
  | .dless, '-' => some .dlessDash
  | .great, '>' => some .dgreat
  | .great, '&' => some .greatAnd
  | .great, '|' => some .clobber
  | _, _ => none

/-- A part of a word. -/
inductive Piece where
  | literal (c : Char) (quoted : Bool)
  | parameter (name : List Char) (quoted : Bool)
  deriving DecidableEq

/-- A token of the shell, or a comment. -/
inductive Token where
  | word (pieces : List Piece)
  | ioNumber (digits : List Char)
  | operator (op : Operator)
  | newline
  | comment (text : List Char)
  deriving DecidableEq

/-- Why a text has no tokens, or none that are modelled. -/
inductive LexError where
  | unterminated
  | hereDocument
  | substitution
  /-- A backslash after an operator or a parameter, which may go on in the next line. -/
  | continuation
  deriving DecidableEq

/-! ## One character

The lexer is a state machine. One character may complete a token, change what is being read, or
both. -/

/-- A blank between words. -/
def isBlank (c : Char) : Bool := c == ' ' || c == '\t'

/-- An unquoted character that ends a word. -/
def isDelimiter (c : Char) : Bool := isBlank c || c == '\n' || (Operator.ofChar c).isSome

/-- The character that begins a substitution in the old style. -/
def backquote : Char := Char.ofNat 96

/-- A character that may begin the name of a parameter. -/
def isNameStart (c : Char) : Bool := c.isAlpha || c == '_'

/-- The parameters of one character: the digits and the special parameters. -/
def isShortParameter (c : Char) : Bool := c.isDigit || c ∈ ['@', '*', '#', '?', '-', '$', '!']

/-- What has been read of the token at hand. -/
inductive Mode where
  | between
  | word (pieces : List Piece)
  | single (pieces : List Piece)
  | double (pieces : List Piece)
  /-- After a backslash; `none` when it does not stand in a word. -/
  | escape (pieces : Option (List Piece))
  | doubleEscape (pieces : List Piece)
  | dollar (pieces : List Piece) (quoted : Bool)
  | parameter (pieces : List Piece) (name : List Char) (quoted : Bool)
  | operator (op : Operator)
  | comment (text : List Char)
  deriving DecidableEq

/-- The tokens that are complete, and where the lexer is now. -/
abbrev Progress := Except LexError (List Token × Mode)

/-- An unquoted digit. -/
def Piece.digit : Piece → Option Char
  | .literal c false => if c.isDigit then some c else none
  | _ => none

/-- The digits of a word that may be an IO number. -/
def ioDigits (pieces : List Piece) : Option (List Char) := pieces.mapM Piece.digit

/-- The token of a word that ends before `c`. -/
def delimit (pieces : List Piece) (c : Char) : Token :=
  match ioDigits pieces with
  | some digits => if digits ≠ [] ∧ (c = '<' ∨ c = '>') then .ioNumber digits else .word pieces
  | none => .word pieces

/-- The token of an operator, unless it opens a here-document. -/
def operatorToken (op : Operator) : Except LexError Token :=
  if op = .dless ∨ op = .dlessDash then .error .hereDocument else .ok (.operator op)

/-- An unquoted character that belongs to a word. -/
def inWord (pieces : List Piece) (c : Char) : Progress :=
  if c = '\'' then .ok ([], .single pieces)
  else if c = '"' then .ok ([], .double pieces)
  else if c = '\\' then .ok ([], .escape (some pieces))
  else if c = '$' then .ok ([], .dollar pieces false)
  else if c = backquote then .error .substitution
  else .ok ([], .word (pieces ++ [.literal c false]))

/-- An unquoted character where no token is being read. -/
def startToken (c : Char) : Progress :=
  if isBlank c then .ok ([], .between)
  else if c = '\n' then .ok ([.newline], .between)
  else if c = '#' then .ok ([], .comment [])
  else if c = '\\' then .ok ([], .escape none)
  else match Operator.ofChar c with
    | some op => .ok ([], .operator op)
    | none => inWord [] c

/-- Complete a token before going on. -/
def Progress.emit (t : Token) (p : Progress) : Progress := p.map fun (ts, m) => (t :: ts, m)

/-- One character after an unquoted part of a word: it ends the word or belongs to it. -/
def afterWord (pieces : List Piece) (c : Char) : Progress :=
  if isDelimiter c then Progress.emit (delimit pieces c) (startToken c) else inWord pieces c

/-- One character inside double quotes. -/
def inDouble (pieces : List Piece) (c : Char) : Progress :=
  if c = '"' then .ok ([], .word pieces)
  else if c = '\\' then .ok ([], .doubleEscape pieces)
  else if c = '$' then .ok ([], .dollar pieces true)
  else if c = backquote then .error .substitution
  else .ok ([], .double (pieces ++ [.literal c true]))

/-- Go on with a word, inside double quotes or not. -/
def resume (pieces : List Piece) (quoted : Bool) (c : Char) : Progress :=
  if quoted then inDouble pieces c else afterWord pieces c

/-- The state in which a word goes on. -/
def resumed (pieces : List Piece) (quoted : Bool) : Mode :=
  if quoted then .double pieces else .word pieces

/-- One character after a dollar sign: a parameter begins, or the dollar sign stood for itself. -/
def afterDollar (pieces : List Piece) (quoted : Bool) (c : Char) : Progress :=
  if isNameStart c then .ok ([], .parameter pieces [c] quoted)
  else if isShortParameter c then .ok ([], resumed (pieces ++ [.parameter [c] quoted]) quoted)
  -- outside double quotes, shells differ about a dollar sign before a quote
  else if c = '{' ∨ c = '(' ∨ (quoted = false ∧ (c = '\'' ∨ c = '"')) then .error .substitution
  else if c = '\\' then .error .continuation
  else resume (pieces ++ [.literal '$' quoted]) quoted c

/-- One character in each state. No character looks ahead: where a token ends before a character,
that character is read again as the start of the next. -/
def step : Mode → Char → Progress
  | .between, c => startToken c
  | .word pieces, c => afterWord pieces c
  | .single pieces, c =>
    if c = '\'' then .ok ([], .word pieces) else .ok ([], .single (pieces ++ [.literal c true]))
  | .double pieces, c => inDouble pieces c
  | .escape pieces, c =>
    -- a backslash and a newline disappear
    if c = '\n' then .ok ([], (pieces.map .word).getD .between)
    else .ok ([], .word (pieces.getD [] ++ [.literal c true]))
  | .doubleEscape pieces, c =>
    if c = '\n' then .ok ([], .double pieces)
    else if c = '$' ∨ c = backquote ∨ c = '"' ∨ c = '\\' then
      .ok ([], .double (pieces ++ [.literal c true]))
    else .ok ([], .double (pieces ++ [.literal '\\' true, .literal c true]))
  | .dollar pieces quoted, c => afterDollar pieces quoted c
  | .parameter pieces name quoted, c =>
    if isNameStart c || c.isDigit then .ok ([], .parameter pieces (name ++ [c]) quoted)
    else if c = '\\' then .error .continuation
    else resume (pieces ++ [.parameter name quoted]) quoted c
  | .operator op, c =>
    match op.extend c with
    | some op' => .ok ([], .operator op')
    | none =>
      if c = '\\' then .error .continuation
      else do Progress.emit (← operatorToken op) (startToken c)
  | .comment text, c =>
    if c = '\n' then .ok ([.comment text, .newline], .between)
    else .ok ([], .comment (text ++ [c]))

/-! ## A text

The tokens of a text are those completed on the way and the one completed at its end. -/

/-- The tokens that a text completes, and the state after it. -/
def run : Mode → List Char → Progress
  | m, [] => .ok ([], m)
  | m, c :: s => do
    let (ts, m') ← step m c
    let (us, m'') ← run m' s
    return (ts ++ us, m'')

/-- What the end of the text completes. -/
def finish : Mode → Except LexError (List Token)
  | .between => .ok []
  | .word pieces => .ok [.word pieces]
  | .dollar pieces false => .ok [.word (pieces ++ [.literal '$' false])]
  | .parameter pieces name false => .ok [.word (pieces ++ [.parameter name false])]
  | .operator op => (operatorToken op).map fun t => [t]
  | .comment text => .ok [.comment text]
  | .single _ | .double _ | .escape _ | .doubleEscape _ | .dollar _ true
  | .parameter _ _ true => .error .unterminated

/-- The tokens of a text. -/
def tokenize (s : List Char) : Except LexError (List Token) := do
  let (ts, m) ← run .between s
  let us ← finish m
  return ts ++ us

/-! ## Where a text may be cut

A script is put together from lines and words that were quoted one by one. The lemmas say when the
tokens of the whole are those of the parts: at a newline always, at a blank if no comment is open.
-/

/-- Reading one text after another. Induction on the first. -/
theorem run_append (m : Mode) (s t : List Char) :
    run m (s ++ t) = do
      let (ts, m') ← run m s
      let (us, m'') ← run m' t
      return (ts ++ us, m'') := by
  induction s generalizing m with
  | nil => cases h : run m t <;> simp [run, h, bind, Except.bind, pure, Except.pure]
  -- each of the three parts may fail, and the failure is that of the whole
  | cons c s ih =>
    rw [List.cons_append, run, run]
    cases hstep : step m c with
    | error e => rfl
    | ok p =>
      simp only [bind, Except.bind, ih]
      cases run p.2 s with
      | error e => rfl
      | ok q =>
        simp only [pure, Except.pure]
        cases run q.2 t <;> simp

/-- The tokens of a text, where the lexer is at its end, and what is completed there. -/
structure Reads (m : Mode) (s : List Char) (ts : List Token) (m' : Mode) : Prop where
  run_eq : run m s = .ok (ts, m')

theorem Reads.nil (m : Mode) : Reads m [] [] m := ⟨rfl⟩

theorem Reads.append {m m' m'' : Mode} {s t : List Char} {ts us : List Token}
    (h : Reads m s ts m') (h' : Reads m' t us m'') : Reads m (s ++ t) (ts ++ us) m'' := by
  constructor
  rw [run_append, h.run_eq]
  simp [h'.run_eq, bind, Except.bind, pure, Except.pure]

theorem Reads.cons {m m' m'' : Mode} {c : Char} {s : List Char} {ts us : List Token}
    (h : step m c = .ok (ts, m')) (h' : Reads m' s us m'') : Reads m (c :: s) (ts ++ us) m'' := by
  constructor
  rw [run, h]
  simp [h'.run_eq, bind, Except.bind, pure, Except.pure]

/-- A text that was read completely has these tokens. -/
theorem tokenize_of_reads {s : List Char} {ts us : List Token} {m : Mode}
    (h : Reads .between s ts m) (hfinish : finish m = .ok us) : tokenize s = .ok (ts ++ us) := by
  unfold tokenize
  rw [h.run_eq]
  simp [hfinish, bind, Except.bind, pure, Except.pure]

/-- A text that has tokens was read completely. -/
theorem tokenize_eq_ok {s : List Char} {ts : List Token} (h : tokenize s = .ok ts) :
    ∃ us m vs, Reads .between s us m ∧ finish m = .ok vs ∧ ts = us ++ vs := by
  unfold tokenize at h
  cases hrun : run .between s with
  | error e => rw [hrun] at h; cases h
  | ok p =>
    rw [hrun] at h
    cases hfinish : finish p.2 with
    | error e => simp [hfinish, bind, Except.bind] at h
    | ok vs =>
      simp only [hfinish, bind, Except.bind, pure, Except.pure, Except.ok.injEq] at h
      exact ⟨p.1, p.2, vs, ⟨hrun⟩, hfinish, h.symm⟩

/-- A word is an IO number only in front of a redirection. -/
theorem delimit_eq_word (pieces : List Piece) {c : Char} (hc : ¬ (c = '<' ∨ c = '>')) :
    delimit pieces c = .word pieces := by
  unfold delimit
  split
  · rw [if_neg fun h => hc h.2]
  · rfl

/-- A blank or a newline ends a word, and is read for itself. -/
theorem afterWord_separator {c : Char} {seps : List Token} (hc : c = ' ' ∨ c = '\n')
    (hstart : startToken c = .ok (seps, .between)) (pieces : List Piece) :
    afterWord pieces c = .ok (.word pieces :: seps, .between) := by
  have hdelimiter : isDelimiter c = true := by rcases hc with rfl | rfl <;> rfl
  have hword : delimit pieces c = .word pieces :=
    delimit_eq_word pieces (by rcases hc with rfl | rfl <;> decide)
  rw [afterWord, if_pos hdelimiter, hword, hstart]
  rfl

/-- A blank or a newline completes what the end of the text would, but for a comment. -/
theorem step_separator {m : Mode} {ts seps : List Token} {c : Char} (hc : c = ' ' ∨ c = '\n')
    (hstart : startToken c = .ok (seps, .between)) (hfinish : finish m = .ok ts)
    (hm : ∀ text, m ≠ .comment text) : step m c = .ok (ts ++ seps, .between) := by
  cases m with
  | between =>
    cases hfinish
    exact hstart
  | word pieces =>
    cases hfinish
    exact afterWord_separator hc hstart pieces
  | dollar pieces quoted =>
    cases quoted with
    | true => cases hfinish
    | false =>
      cases hfinish
      rw [List.singleton_append, ← afterWord_separator hc hstart]
      rcases hc with rfl | rfl <;> rfl
  | parameter pieces name quoted =>
    cases quoted with
    | true => cases hfinish
    | false =>
      cases hfinish
      rw [List.singleton_append, ← afterWord_separator hc hstart]
      rcases hc with rfl | rfl <;> rfl
  | operator op =>
    -- no operator goes on with a blank or a newline
    rcases hc with rfl | rfl <;> cases hstart <;> cases op <;> cases hfinish <;> rfl
  | comment text => exact absurd rfl (hm text)
  | single | double | escape | doubleEscape => cases hfinish

/-- A newline also completes a comment. -/
theorem step_newline {m : Mode} {ts : List Token} (hfinish : finish m = .ok ts) :
    step m '\n' = .ok (ts ++ [.newline], .between) := by
  cases m with
  | comment text =>
    cases hfinish
    rfl
  | _ => exact step_separator (Or.inr rfl) rfl hfinish nofun

/-- A blank completes what the end of the text would complete, if that is no comment. -/
theorem step_blank {m : Mode} {ts : List Token} (hfinish : finish m = .ok ts)
    (hcomment : ∀ text, .comment text ∉ ts) : step m ' ' = .ok (ts, .between) := by
  have hm : ∀ text, m ≠ .comment text := by
    rintro text rfl
    cases hfinish
    exact hcomment text List.mem_cons_self
  rw [step_separator (Or.inl rfl) rfl hfinish hm, List.append_nil]

/-- Lines are read one by one. -/
theorem tokenize_newline {s t : List Char} {ts us : List Token} (hs : tokenize s = .ok ts)
    (ht : tokenize t = .ok us) : tokenize (s ++ '\n' :: t) = .ok (ts ++ .newline :: us) := by
  obtain ⟨ts₁, m, ts₂, hreads, hfinish, rfl⟩ := tokenize_eq_ok hs
  obtain ⟨us₁, m', us₂, hreads', hfinish', rfl⟩ := tokenize_eq_ok ht
  have hwhole := hreads.append (Reads.cons (step_newline hfinish) hreads')
  rw [tokenize_of_reads hwhole hfinish']
  simp

/-- What follows a blank is read as if it stood alone, unless it goes on with a comment. -/
theorem tokenize_blank {s t : List Char} {ts us : List Token} (hs : tokenize s = .ok ts)
    (hcomment : ∀ text, .comment text ∉ ts) (ht : tokenize t = .ok us) :
    tokenize (s ++ ' ' :: t) = .ok (ts ++ us) := by
  obtain ⟨ts₁, m, ts₂, hreads, hfinish, rfl⟩ := tokenize_eq_ok hs
  obtain ⟨us₁, m', us₂, hreads', hfinish', rfl⟩ := tokenize_eq_ok ht
  have hlast : ∀ text, .comment text ∉ ts₂ := fun text hmem =>
    hcomment text (List.mem_append_right _ hmem)
  have hwhole := hreads.append (Reads.cons (step_blank hfinish hlast) hreads')
  rw [tokenize_of_reads hwhole hfinish']
  simp

/-! ## Words

An ordinary character is one that no state of the lexer treats specially, so a text of them is one
word. -/

/-- The characters that end a word, quote, or begin an expansion. -/
def specials : List Char :=
  [' ', '\t', '\n', '&', '|', ';', '<', '>', '(', ')', '\'', '"', '\\', '$', backquote]

/-- Unquoted, `c` stands for itself and ends nothing. -/
def isOrdinary (c : Char) : Bool := c ∉ specials

theorem mem_specials_of_ofChar {c : Char} (h : (Operator.ofChar c).isSome = true) :
    c ∈ specials := by
  unfold Operator.ofChar at h
  split at h
  case h_8 => cases h
  all_goals decide

theorem mem_specials_of_isDelimiter {c : Char} (h : isDelimiter c = true) : c ∈ specials := by
  simp only [isDelimiter, isBlank, Bool.or_eq_true, beq_iff_eq] at h
  rcases h with ((rfl | rfl) | rfl) | hop
  · decide
  · decide
  · decide
  · exact mem_specials_of_ofChar hop

theorem ne_of_isOrdinary {c d : Char} (h : isOrdinary c = true) (hd : d ∈ specials) : c ≠ d := by
  rintro rfl
  simp [isOrdinary, hd] at h

theorem inWord_ordinary {c : Char} (h : isOrdinary c = true) (pieces : List Piece) :
    inWord pieces c = .ok ([], .word (pieces ++ [.literal c false])) := by
  unfold inWord
  rw [if_neg (ne_of_isOrdinary h (by decide)), if_neg (ne_of_isOrdinary h (by decide)),
    if_neg (ne_of_isOrdinary h (by decide)), if_neg (ne_of_isOrdinary h (by decide)),
    if_neg (ne_of_isOrdinary h (by decide))]

theorem isDelimiter_ordinary {c : Char} (h : isOrdinary c = true) : isDelimiter c = false := by
  by_contra hdelimiter
  exact ne_of_isOrdinary h (mem_specials_of_isDelimiter (by simpa using hdelimiter)) rfl

theorem afterWord_ordinary {c : Char} (h : isOrdinary c = true) (pieces : List Piece) :
    afterWord pieces c = .ok ([], .word (pieces ++ [.literal c false])) := by
  unfold afterWord
  rw [isDelimiter_ordinary h, if_neg Bool.false_ne_true, inWord_ordinary h]

/-- It begins a word, unless it begins a comment. -/
theorem startToken_ordinary {c : Char} (h : isOrdinary c = true) (hcomment : c ≠ '#') :
    startToken c = .ok ([], .word [.literal c false]) := by
  have hnone := isDelimiter_ordinary h
  simp only [isDelimiter, Bool.or_eq_false_iff, beq_eq_false_iff_ne,
    Option.isSome_eq_false_iff, Option.isNone_iff_eq_none] at hnone
  obtain ⟨⟨hblank, hnewline⟩, hop⟩ := hnone
  have hescape : c ≠ '\\' := ne_of_isOrdinary h (by decide)
  simp [startToken, hblank, hnewline, hcomment, hescape, hop, inWord_ordinary h]

/-- A text of ordinary characters in a word. Induction on the text. -/
theorem reads_ordinary {s : List Char} (h : ∀ c ∈ s, isOrdinary c = true) (pieces : List Piece) :
    Reads (.word pieces) s [] (.word (pieces ++ s.map fun c => .literal c false)) := by
  induction s generalizing pieces with
  | nil =>
    rw [List.map_nil, List.append_nil]
    exact .nil _
  | cons c s ih =>
    have hstep : step (.word pieces) c = .ok ([], .word (pieces ++ [.literal c false])) :=
      afterWord_ordinary (h c List.mem_cons_self) pieces
    have hrest := ih (fun d hd => h d (List.mem_cons_of_mem c hd)) (pieces ++ [.literal c false])
    rw [List.append_assoc] at hrest
    exact Reads.cons hstep hrest

/-- A text of ordinary characters is one word. -/
theorem tokenize_ordinary {s : List Char} (hne : s ≠ []) (h : ∀ c ∈ s, isOrdinary c = true)
    (hcomment : s.head? ≠ some '#') :
    tokenize s = .ok [.word (s.map fun c => .literal c false)] := by
  obtain ⟨c, s, rfl⟩ := List.exists_cons_of_ne_nil hne
  have hstart : step .between c = .ok ([], .word [.literal c false]) :=
    startToken_ordinary (h c List.mem_cons_self) fun heq => hcomment (by rw [heq]; rfl)
  have hrest := reads_ordinary (fun d hd => h d (List.mem_cons_of_mem c hd)) [.literal c false]
  exact tokenize_of_reads (Reads.cons hstart hrest) rfl

/-! ## Quote removal

A word of which every piece is plain is its text. A piece that the shell may still expand, a
parameter or an unquoted pattern character, leaves the word an expansion. -/

/-- The characters that may begin a pathname or a tilde expansion where they are not quoted. -/
def mayExpand (c : Char) : Bool := c ∈ ['*', '?', '[', '~']

/-- The character of a piece that the shell does not expand. -/
def Piece.plain : Piece → Option Char
  | .literal c quoted => if quoted || !mayExpand c then some c else none
  | .parameter _ _ => none

/-- The text of a word in which nothing is expanded. -/
def plainText (pieces : List Piece) : Option (List Char) := pieces.mapM Piece.plain

/-- What a token is to the grammar, its quotes removed. -/
inductive Lexeme where
  | word (text : List Char)
  | expansion (pieces : List Piece)
  | ioNumber (digits : List Char)
  | operator (op : Operator)
  | newline
  | comment (text : List Char)
  deriving DecidableEq

/-- A token after quote removal. -/
def Token.lexeme : Token → Lexeme
  | .word pieces =>
    match plainText pieces with
    | some text => .word text
    | none => .expansion pieces
  | .ioNumber digits => .ioNumber digits
  | .operator op => .operator op
  | .newline => .newline
  | .comment text => .comment text

/-- A quoted text is plain, and so is an unquoted one that has nothing to expand. -/
theorem plainText_map {s : List Char} {quoted : Bool}
    (h : quoted = true ∨ ∀ c ∈ s, mayExpand c = false) :
    plainText (s.map fun c => .literal c quoted) = some s := by
  induction s with
  | nil => rfl
  | cons c s ih =>
    have hc : (Piece.literal c quoted).plain = some c := by
      rcases h with rfl | h
      · rfl
      · simp [Piece.plain, h c List.mem_cons_self]
    have hs := ih (h.imp_right fun h d hd => h d (List.mem_cons_of_mem c hd))
    unfold plainText at hs ⊢
    rw [List.map_cons, List.mapM_cons, hc, hs]
    rfl

/-- The tokens of a text, quotes removed. -/
def lexemes (s : List Char) : Except LexError (List Lexeme) :=
  (tokenize s).map fun ts => ts.map Token.lexeme

/-- The lexemes of a text are those of its tokens. -/
theorem lexemes_eq_ok {s : List Char} {ls : List Lexeme} :
    lexemes s = .ok ls ↔ ∃ ts, tokenize s = .ok ts ∧ ts.map Token.lexeme = ls := by
  unfold lexemes
  cases tokenize s <;> simp [Except.map]

/-- Quote removal makes no comments and takes none away. -/
theorem comment_not_mem {ts : List Token} (h : ∀ text, .comment text ∉ ts.map Token.lexeme)
    (text : List Char) : .comment text ∉ ts :=
  fun hmem => h text (List.mem_map_of_mem (f := Token.lexeme) hmem)

theorem lexemes_newline {s t : List Char} {ls ks : List Lexeme} (hs : lexemes s = .ok ls)
    (ht : lexemes t = .ok ks) : lexemes (s ++ '\n' :: t) = .ok (ls ++ .newline :: ks) := by
  obtain ⟨ts, hts, rfl⟩ := lexemes_eq_ok.mp hs
  obtain ⟨us, hus, rfl⟩ := lexemes_eq_ok.mp ht
  exact lexemes_eq_ok.mpr ⟨_, tokenize_newline hts hus, by rw [List.map_append]; rfl⟩

/-- Two texts with a blank between them, if the first opens no comment. -/
theorem lexemes_blank {s t : List Char} {ls ks : List Lexeme} (hs : lexemes s = .ok ls)
    (hcomment : ∀ text, .comment text ∉ ls) (ht : lexemes t = .ok ks) :
    lexemes (s ++ ' ' :: t) = .ok (ls ++ ks) := by
  obtain ⟨ts, hts, rfl⟩ := lexemes_eq_ok.mp hs
  obtain ⟨us, hus, rfl⟩ := lexemes_eq_ok.mp ht
  have htokens := tokenize_blank hts (comment_not_mem hcomment) hus
  exact lexemes_eq_ok.mpr ⟨_, htokens, List.map_append⟩

/-- A word whose characters are all quoted, or need no quotes, is its text. -/
theorem lexemes_word {s text : List Char} {quoted : Bool}
    (h : tokenize s = .ok [.word (text.map fun c => .literal c quoted)])
    (hplain : quoted = true ∨ ∀ c ∈ text, mayExpand c = false) :
    lexemes s = .ok [.word text] := by
  refine lexemes_eq_ok.mpr ⟨_, h, ?_⟩
  rw [List.map_singleton, Token.lexeme, plainText_map hplain]

end Text.Shell
