/- GID: BlueTeam/Ingest/Patterns
   generality: I
   source: packages/ingest-adapters/blueteam_ingest/syslog.py
   digest: The regular expressions of the syslog adapter, and what Python's `re` makes of them. -/

import BlueTeam.Ingest.Normalize
import BlueTeam.Python.Re

set_option autoImplicit false
set_option relaxedAutoImplicit false

namespace BlueTeam.Ingest.Syslog

open BlueTeam.Python BlueTeam.Python.Re BlueTeam.Lib BlueTeam.Lib.Regex

section

variable (u : CharTables)

/-- `\d{1,n}` -/
def upToDigits : Nat → Regex Char
  | 0 => .empty
  | n + 1 => .seq (digit u) (upTo n (digit u))

/-- `(?P<rest>.*)$` -/
def restOfLine : Regex Char :=
  .seq (.group "rest" (.star (.one fun c => c ≠ '\n'))) (.atEnd fun c => c = '\n')

/-- `RFC5424` -/
def rfc5424Regex : Regex Char :=
  all [literal "<", .group "pri" (plus (digit u)), literal ">",
    .group "version" (plus (digit u)), spaces u, .group "ts" (solid u), spaces u,
    .group "host" (solid u), spaces u, .group "app" (solid u), spaces u, .group "proc" (solid u),
    spaces u, .group "msgid" (solid u), spaces u, restOfLine]

def isUpper (c : Char) : Bool := 65 ≤ c.toNat && c.toNat ≤ 90
def isLower (c : Char) : Bool := 97 ≤ c.toNat && c.toNat ≤ 122

/-- `RFC3164` -/
def rfc3164Regex : Regex Char :=
  all [literal "<", .group "pri" (plus (digit u)), literal ">",
    .group "ts" (all [.one isUpper, times 2 (.one isLower), spaces u, upToDigits u 2, spaces u,
      times 2 (digit u), literal ":", times 2 (digit u), literal ":", times 2 (digit u)]),
    spaces u, .group "host" (solid u), spaces u, restOfLine]

/-- `[A-Za-z0-9_.-]` -/
def isNameChar (c : Char) : Bool :=
  isUpper c || isLower c || c.isDigit || c = '_' || c = '.' || c = '-'

/-- `(?:user|account|for)\s+([A-Za-z0-9_.-]+)`, without regard to case -/
def userRegex : Regex Char :=
  all [.alt (anyCase u "user") (.alt (anyCase u "account") (anyCase u "for")), spaces u,
    .group "1" (plus (.one fun c => isNameChar c || isNameChar (u.fold c)))]

/-- `fail|denied|invalid|refused` -/
def failureRegex : Regex Char :=
  .alt (anyCase u "fail") (.alt (anyCase u "denied")
    (.alt (anyCase u "invalid") (anyCase u "refused")))

/-- `password|login|auth|sshd` -/
def authRegex : Regex Char :=
  .alt (anyCase u "password") (.alt (anyCase u "login")
    (.alt (anyCase u "auth") (anyCase u "sshd")))

/-- `IP_RE`, as a group -/
def addressRegex : Regex Char :=
  .group "0" (all [.boundary u.word, times 3 (.seq (upToDigits u 3) (literal ".")), upToDigits u 3,
    .boundary u.word])

end

/-- The groups of a match, by their names. -/
def named (t : Cursor Char) : List (String × String) :=
  t.groups.map fun g => (g.1, String.ofList g.2)

def groupTexts (t : Cursor Char) : List String :=
  t.groups.map fun g => String.ofList g.2

def matchedText (t : Cursor Char) : String :=
  String.ofList ((t.groups.lookup "0").getD [])

/-- Python's `re` on the patterns of the adapter, and `strip` on blanks. -/
structure Engine (rt : Runtime) (u : CharTables) : Prop where
  rfc5424 : ∀ text, rt.reMatch Syslog.rfc5424 text =
    ((rfc5424Regex u).matchStart text.toList).map named
  rfc3164 : ∀ text, rt.reMatch Syslog.rfc3164 text =
    ((rfc3164Regex u).matchStart text.toList).map named
  user : ∀ text, rt.reSearch "(?:user|account|for)\\s+([A-Za-z0-9_.-]+)" text =
    ((userRegex u).search text.toList).map groupTexts
  failure : ∀ text, rt.reSearch "fail|denied|invalid|refused" text =
    ((failureRegex u).search text.toList).map groupTexts
  auth : ∀ text, rt.reSearch "password|login|auth|sshd" text =
    ((authRegex u).search text.toList).map groupTexts
  address : ∀ text, rt.reFindall ipPattern text =
    ((addressRegex u).findAll text.toList).map matchedText
  strip : ∀ left middle right : List Char, (∀ c ∈ left, u.space c = true) →
    (∀ c ∈ right, u.space c = true) → (∀ c ∈ middle.head?, u.space c = false) →
    (∀ c ∈ middle.getLast?, u.space c = false) →
    rt.strip (String.ofList (left ++ middle ++ right)) = String.ofList middle

end BlueTeam.Ingest.Syslog
