/-
Redaction.

There are two redactors: one for the events that come in, and one for the evidence that is collected.
Both go through nested data, replace the values of keys that look sensitive, and replace what looks
like a credential within texts.  They know different keys and different credentials.

What Unicode decides is a parameter where it matters: which characters are alphanumeric.
-/
import SelfHealing.Lib.Masking
import SelfHealing.Lib.Regex
import SelfHealing.Payloads
import SelfHealing.Texts

namespace SelfHealing

open Canonical Masking Regex

/-! ### Characters -/

/-- The ASCII letter that a character stands for when case is ignored, or the character.  Beside the
letters themselves there are two forms of the i, the Kelvin sign, and the long s. -/
def foldCase (c : Char) : Char :=
  if c.isUpper then c.toLower
  else if c.toNat = 304 ∨ c.toNat = 305 then 'i'
  else if c.toNat = 8490 then 'k'
  else if c.toNat = 383 then 's'
  else c

/-- A character of one of the classes of letters, digits and further characters. -/
def inClass (letters : Bool) (others : String) (c : Char) : Bool :=
  c.isDigit || letters && (c.isUpper || c.isLower) || others.toList.contains c

/-- `[...]` with the letters, when case is ignored. -/
def inFoldedClass (others : String) (c : Char) : Bool := inClass true others (foldCase c)

/-- A word, when case is ignored. -/
def anyCase (word : String) : Expr := .word foldCase word.toList

/-- A word as it is. -/
def exactly (word : String) : Expr := .word id word.toList

def redactedText : String := "[REDACTED]"

/-- The mark in the place of a value. -/
def redacted : Data := dataText redactedText

/-- `redact` in every text. -/
def DataAtom.redact (redact : String → String) : DataAtom → DataAtom
  | .text s => .text (redact s)
  | a => a

/-- `pattern.sub(parts, text)`, one pattern after the other. -/
def substitute (patterns : List (Expr × List Part)) (text : String) : String :=
  String.ofList (patterns.foldl (fun text pattern => pattern.1.sub pattern.2 text) text.toList)

/-! ### Events -/

/-- `SENSITIVE_KEY_NAMES`. -/
def eventSensitiveNames : List String :=
  ["password", "passwd", "pwd", "secret", "client_secret", "token", "auth_token", "access_token",
   "refresh_token", "session_token", "bearer", "api_key", "apikey", "private_key", "privkey",
   "credential", "credentials", "authorization", "conn_str", "connection_string"]

/-- What makes a key sensitive wherever it is in it. -/
def eventSensitiveTerms : List String :=
  ["password", "passwd", "secret", "private_key", "api_key", "apikey", "bearer_token", "auth_token",
   "connection_string"]

/-- `key.strip().lower().replace("-", "_")`. -/
def cleanKey (key : String) : List Char :=
  ((stripSpaces key.toList).flatMap lowerChar).map fun c => if c = '-' then '_' else c

/-- `_is_sensitive_key`. -/
def isSensitiveKey (key : String) : Bool :=
  let clean := cleanKey key
  eventSensitiveNames.any (fun name => decide (name.toList = clean)) ||
    eventSensitiveTerms.any fun term => decide (term.toList <:+: clean)

namespace EventRedactor

variable (alnum : Char → Bool)

/-- `\w`. -/
def isWord (c : Char) : Bool := alnum c || decide (c = '_')

/-- `\b`. -/
def wordBoundary : Expr := .boundary (isWord alnum)

def connectionStringPattern : Expr :=
  .inTurn
    [wordBoundary alnum, .group 1 (.plus (inFoldedClass "+.-")), exactly "://",
     .group 2 (.star fun c => decide (c ≠ ':') && !isSpace c), exactly ":",
     .group 3 (.plus fun c => decide (c ≠ '@') && !isSpace c), exactly "@"]

def bearerTokenPattern : Expr :=
  .inTurn
    [wordBoundary alnum, anyCase "bearer", .plus isSpace,
     .group 1 (.inTurn [.plus (inFoldedClass "-._~+/"), .star fun c => decide (c = '=')])]

def basicAuthPattern : Expr :=
  .inTurn
    [wordBoundary alnum, anyCase "basic", .plus isSpace, .group 1 (.plus (inFoldedClass "+/="))]

/-- An apostrophe or a quote. -/
def isQuote (c : Char) : Bool := decide (c.toNat = 39 ∨ c.toNat = 34)

def inlineSecretPattern : Expr :=
  let key := fun first =>
    Expr.inTurn [anyCase first, .opt fun c => decide (c = '_' ∨ c = '-'), anyCase "key"]
  .inTurn
    [wordBoundary alnum,
     .group 1 (.oneOf
       (["password", "passwd", "pwd", "secret", "token"].map anyCase ++ [key "api", key "access"])),
     .star isSpace, .many 1 (some 1) fun c => decide (c = ':' ∨ c = '='), .star isSpace,
     .opt isQuote,
     .group 2 (.plus fun c => !isSpace c && !isQuote c && !",;&".toList.contains c), .opt isQuote]

def jwtPattern : Expr :=
  let part := Expr.many 10 none (inClass true "_-")
  .inTurn
    [wordBoundary alnum, exactly "eyJ", part, exactly ".", part, exactly ".", part,
     wordBoundary alnum]

def awsKeyPattern : Expr :=
  .inTurn
    [wordBoundary alnum, exactly "AKIA",
     .many 16 (some 16) fun c => c.isDigit || c.isUpper, wordBoundary alnum]

/-- The `redact_string` of events. -/
def redactString : String → String :=
  substitute
    [(connectionStringPattern alnum,
      [.ref 1, .text "://".toList, .ref 2, .text ":[REDACTED]@".toList]),
     (bearerTokenPattern alnum, [.text "Bearer [REDACTED]".toList]),
     (basicAuthPattern alnum, [.text "Basic [REDACTED]".toList]),
     (inlineSecretPattern alnum, [.ref 1, .text "=[REDACTED]".toList]),
     (jwtPattern alnum, [.text "[REDACTED_JWT]".toList]),
     (awsKeyPattern alnum, [.text "[REDACTED_AWS_KEY]".toList])]

end EventRedactor

/-- The redactor of events.  Keys need not be texts, and are printed by `str`; a tuple becomes a
list, which is why both are sequences here. -/
def eventMask {K : Type} (str : K → String) (alnum : Char → Bool) :
    Mask K String DataAtom DataAtom where
  rename := str
  hides := isSensitiveKey
  mark := redacted
  leaf := DataAtom.redact (EventRedactor.redactString alnum)

/-- `redact_sensitive_data`. -/
def redactSensitiveData {K : Type} (str : K → String) (alnum : Char → Bool) : DataTree K → Data :=
  (eventMask str alnum).apply

/-! ### Evidence -/

/-- The alternatives of `SENSITIVE_KEY_PATTERN`. -/
def evidenceSensitiveNames : List String :=
  ["password", "passwd", "secret", "token", "authorization", "auth", "api_key", "apikey",
   "access_key", "private_key", "credential", "jwt"]

def sensitiveKeyPattern : Expr :=
  .inTurn [.start, .group 1 (.oneOf (evidenceSensitiveNames.map anyCase)), .finish]

namespace EvidenceRedactor

def connectionStringPattern : Expr :=
  .inTurn
    [.group 1 (.inTurn [.plus (inClass true "+.-"), exactly "://"]),
     .group 2 (.star fun c => decide (c ≠ ':')), exactly ":",
     .group 3 (.plus fun c => decide (c ≠ '@')), exactly "@"]

def authHeaderPattern : Expr :=
  .inTurn
    [.group 1 (.inTurn [anyCase "bearer", .plus isSpace]), .plus (inFoldedClass "-._~+/"),
     .star fun c => decide (c = '=')]

def basicAuthPattern : Expr :=
  .inTurn
    [.group 1 (.inTurn [anyCase "basic", .plus isSpace]), .plus (inFoldedClass "+/"),
     .star fun c => decide (c = '=')]

def queryParamPattern : Expr :=
  .inTurn
    [.group 1 (.inTurn
      [.oneOf (["token", "key", "secret", "password", "api_key"].map anyCase), exactly "="]),
     .plus fun c => decide (c ≠ '&')]

/-- The `redact_string` of evidence. -/
def redactString : String → String :=
  substitute
    [(connectionStringPattern, [.ref 1, .ref 2, .text ":[REDACTED]@".toList]),
     (authHeaderPattern, [.ref 1, .text redactedText.toList]),
     (basicAuthPattern, [.ref 1, .text redactedText.toList]),
     (queryParamPattern, [.ref 1, .text redactedText.toList])]

end EvidenceRedactor

/-- The redactor of evidence, of which the keys are texts. -/
def evidenceMask : Mask String String DataAtom DataAtom where
  rename := id
  hides := fun key => sensitiveKeyPattern.search key.toList
  mark := redacted
  leaf := DataAtom.redact EvidenceRedactor.redactString

/-- `redact_payload`. -/
def redactPayload : Data → Data := evidenceMask.apply

end SelfHealing
