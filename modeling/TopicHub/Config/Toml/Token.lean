/-
  Config/Toml/Token.lean --- the tokens of a TOML text.

  A TOML text is cut into tokens before anything else is decided:

  * one character each: `.`, `=`, `,`, `[`, `]`, `{` and `}`;
  * a run of spaces and tabs; a comment from `#` up to the end of its line;
    a line break (`\n`, `\r\n`, or a carriage return alone);
  * strings: `'...'` and `"..."` end at their closing quote or before the
    line break that leaves them open (in `"..."` a backslash takes a `\` or
    `"` after it along), and `'''...'''` and `"""..."""` run to their closing
    quotes, up to two more quotes included, or to the end of the text;
  * any other run of characters up to one of `.=,[]{}`, a blank, `#` or a
    line break is an atom: a bare key or an unquoted value, or a part of one.

  The tokens cover the text without gaps, and an end token closes the list.
  Each token knows the bytes it spans, which is how faults point into the text.
-/

set_option autoImplicit false

namespace TopicHub.Config.Toml

/-- The kinds of tokens. -/
inductive TokenKind where
  | dot
  | equals
  | comma
  | openBracket
  | closeBracket
  | openBrace
  | closeBrace
  | whitespace
  | comment
  | newline
  | literal
  | basic
  | mlLiteral
  | mlBasic
  | atom
  | eof
  deriving DecidableEq, Repr

/-- A token: its kind, the bytes it spans and its characters. -/
structure Token where
  kind : TokenKind
  start : Nat
  stop : Nat
  text : List Char
  deriving Repr

/-- The number of bytes of characters in UTF-8. -/
def byteCount (cs : List Char) : Nat := (cs.map Char.utf8Size).foldr (· + ·) 0

/-- The characters that end an atom. -/
def endsAtom (c : Char) : Bool :=
  c == '.' || c == '=' || c == ',' || c == '[' || c == ']' || c == '\x7b' || c == '\x7d' ||
    c == ' ' || c == '\t' || c == '#' || c == '\r' || c == '\n'

/-- The body of `"..."` after its opening quote: up to and with the closing
quote, or up to a line break; a backslash takes a `\` or `"` after it along. -/
def basicBody : List Char → List Char
  | [] => []
  | '"' :: _ => ['"']
  | '\n' :: _ => []
  | '\\' :: rest@(c :: rest') =>
    if c = '\\' ∨ c = '"' then '\\' :: c :: basicBody rest' else '\\' :: basicBody rest
  | c :: rest => c :: basicBody rest

/-- Up to two more of `q` after closing quotes. -/
def extraQuotes (q : Char) (cs : List Char) : List Char := (cs.take 2).takeWhile (· = q)

/-- The body of `"""..."""` after its opening quotes: up to and with the
closing quotes and up to two quotes more; a backslash takes a `\` or `"`
after it along. -/
def mlBasicBody : List Char → List Char
  | [] => []
  | '"' :: '"' :: '"' :: rest => ['"', '"', '"'] ++ extraQuotes '"' rest
  | '\\' :: rest@(c :: rest') =>
    if c = '\\' ∨ c = '"' then '\\' :: c :: mlBasicBody rest' else '\\' :: mlBasicBody rest
  | c :: rest => c :: mlBasicBody rest

/-- The body of `'''...'''` after its opening quotes: up to and with the
closing quotes and up to two quotes more. -/
def mlLiteralBody : List Char → List Char
  | [] => []
  | '\'' :: '\'' :: '\'' :: rest => ['\'', '\'', '\''] ++ extraQuotes '\'' rest
  | c :: rest => c :: mlLiteralBody rest

/-- The body of `'...'` after its opening quote: up to and with the closing
quote, or up to a line break. -/
def literalBody (cs : List Char) : List Char :=
  let body := cs.takeWhile fun c => c ≠ '\'' ∧ c ≠ '\n'
  match cs.drop body.length with
  | '\'' :: _ => body ++ ['\'']
  | _ => body

/-- The kind and characters of the token at the start of a text that is not
empty. -/
def tokenAt : List Char → TokenKind × List Char
  | [] => (.eof, [])
  | '.' :: _ => (.dot, ['.'])
  | '=' :: _ => (.equals, ['='])
  | ',' :: _ => (.comma, [','])
  | '[' :: _ => (.openBracket, ['['])
  | ']' :: _ => (.closeBracket, [']'])
  | '\x7b' :: _ => (.openBrace, ['\x7b'])
  | '\x7d' :: _ => (.closeBrace, ['\x7d'])
  | '\n' :: _ => (.newline, ['\n'])
  | '\r' :: '\n' :: _ => (.newline, ['\r', '\n'])
  | '\r' :: _ => (.newline, ['\r'])
  | '\'' :: '\'' :: '\'' :: rest => (.mlLiteral, ['\'', '\'', '\''] ++ mlLiteralBody rest)
  | '\'' :: rest => (.literal, '\'' :: literalBody rest)
  | '"' :: '"' :: '"' :: rest => (.mlBasic, ['"', '"', '"'] ++ mlBasicBody rest)
  | '"' :: rest => (.basic, '"' :: basicBody rest)
  | cs@(c :: _) =>
    if c = ' ' ∨ c = '\t' then (.whitespace, cs.takeWhile fun d => d = ' ' ∨ d = '\t')
    else if c = '#' then (.comment, cs.takeWhile fun d => d ≠ '\r' ∧ d ≠ '\n')
    else (.atom, cs.takeWhile fun d => !endsAtom d)

/-- The tokens of a text from byte `pos` on, closed by the end token; `fuel`
bounds their number. -/
def scanFrom : Nat → List Char → Nat → List Token
  | 0, _, pos => [⟨.eof, pos, pos, []⟩]
  | fuel + 1, cs, pos =>
    match cs with
    | [] => [⟨.eof, pos, pos, []⟩]
    | _ :: _ =>
      let (kind, text) := tokenAt cs
      -- every token but the end takes at least one character
      let taken := max text.length 1
      let stop := pos + byteCount (cs.take taken)
      ⟨kind, pos, stop, cs.take taken⟩ :: scanFrom fuel (cs.drop taken) stop

/-- The tokens of a text; a byte order mark at its start is passed over,
its three bytes still counted. -/
def Token.scan (text : List Char) : List Token :=
  match text with
  | '\uFEFF' :: rest => scanFrom (rest.length + 1) rest 3
  | _ => scanFrom (text.length + 1) text 0

end TopicHub.Config.Toml
