/- GID: BlueTeam/Ingest/Openssh
   generality: I
   source: packages/ingest-adapters/blueteam_ingest/syslog.py
   digest: What the syslog adapter makes of the failed logins that OpenSSH reports. -/

import BlueTeam.Ingest.Dumped
import BlueTeam.Ingest.Patterns

set_option autoImplicit false
set_option relaxedAutoImplicit false

namespace BlueTeam.Ingest.Syslog

open BlueTeam.Python BlueTeam.Python.Re BlueTeam.Schema BlueTeam.Lib BlueTeam.Lib.Exec
  BlueTeam.Lib.Regex

/-! ### Lines -/

/-- A printable character of ASCII that is not blank. -/
def isVisible (c : Char) : Bool := 33 ≤ c.toNat && c.toNat ≤ 126

structure Token where
  chars : List Char
  nonempty : chars ≠ []
  visible : ∀ c ∈ chars, isVisible c = true

structure Number where
  chars : List Char
  nonempty : chars ≠ []
  digits : ∀ c ∈ chars, c.isDigit = true

structure TwoDigits where
  tens : Char
  units : Char
  tensDigit : tens.isDigit = true
  unitsDigit : units.isDigit = true

/-- The structured data of RFC 5424: none, or one element. -/
inductive StructuredData
  | nil
  | element (body : List Char) (plain : ∀ c ∈ body, c ≠ ']' ∧ c ≠ '\n')

def StructuredData.chars : StructuredData → List Char
  | .nil => ['-']
  | .element body _ => '[' :: (body ++ [']'])

structure Rfc5424Header where
  pri : Number
  version : Number
  timestamp : Token
  host : Token
  app : Token
  proc : Token
  msgid : Token
  data : StructuredData

/-- `Mmm dd hh:mm:ss` and a host; a day of one digit has a second blank before it. -/
structure Rfc3164Header where
  pri : Number
  month : Char × Char × Char
  upperCase : isUpper month.1 = true
  lowerCase : isLower month.2.1 = true ∧ isLower month.2.2 = true
  day : Number
  short : day.chars.length ≤ 2
  hour : TwoDigits
  minute : TwoDigits
  second : TwoDigits
  host : Token

def Rfc5424Header.line (h : Rfc5424Header) (message : List Char) : List Char :=
  ['<'] ++ (h.pri.chars ++ (['>'] ++ (h.version.chars ++ ([' '] ++ (h.timestamp.chars ++
    ([' '] ++ (h.host.chars ++ ([' '] ++ (h.app.chars ++ ([' '] ++ (h.proc.chars ++ ([' '] ++
      (h.msgid.chars ++ ([' '] ++ (h.data.chars ++ ' ' :: message)))))))))))))))

def Rfc3164Header.blanks (h : Rfc3164Header) : List Char :=
  if h.day.chars.length = 1 then [' ', ' '] else [' ']

def Rfc3164Header.stamp (h : Rfc3164Header) : List Char :=
  [h.month.1] ++ ([h.month.2.1, h.month.2.2] ++ (h.blanks ++ (h.day.chars ++ ([' '] ++
    ([h.hour.tens, h.hour.units] ++ ([':'] ++ ([h.minute.tens, h.minute.units] ++ ([':'] ++
      ([h.second.tens, h.second.units] ++ [])))))))))

def Rfc3164Header.line (h : Rfc3164Header) (message : List Char) : List Char :=
  ['<'] ++ (h.pri.chars ++ (['>'] ++ (h.stamp ++ ([' '] ++ (h.host.chars ++ ([' '] ++ message))))))

inductive LineHeader
  | rfc5424 (h : Rfc5424Header)
  | rfc3164 (h : Rfc3164Header)

def LineHeader.line (message : List Char) : LineHeader → List Char
  | .rfc5424 h => h.line message
  | .rfc3164 h => h.line message

def LineHeader.host : LineHeader → Token
  | .rfc5424 h => h.host
  | .rfc3164 h => h.host

/-- The time stamp is one that Python reads, or the one that stands for none. -/
def LineHeader.Stamped (rt : Runtime) : LineHeader → Prop
  | .rfc5424 h => h.timestamp.chars = ['-'] ∨
      ∃ d, rt.fromisoformat (replaceZ (String.ofList h.timestamp.chars)) = .ok d
  | .rfc3164 _ => True

/-- A name over `[A-Za-z0-9_.-]`. -/
structure AccountName where
  chars : List Char
  nonempty : chars ≠ []
  plain : ∀ c ∈ chars, isNameChar c = true

structure Ipv4 where
  a : UInt8
  b : UInt8
  c : UInt8
  d : UInt8

def octet (n : UInt8) : List Char :=
  Nat.toDigits 10 n.toNat

def Ipv4.chars (ip : Ipv4) : List Char :=
  ((octet ip.a ++ ['.']) ++ ((octet ip.b ++ ['.']) ++ (octet ip.c ++ ['.']))) ++ octet ip.d

/-- Whether the account is there. -/
inductive Account
  | known
  | invalid
  deriving DecidableEq

def Account.opening : Account → List Char
  | .known => "Failed password for ".toList
  | .invalid => "Failed password for invalid user ".toList

/-- `Failed password for NAME from IP port N ssh2`, or the same for an `invalid user`. -/
def failureMessage (account : Account) (name : AccountName) (ip : Ipv4) (port : Number) :
    List Char :=
  account.opening ++ (name.chars ++ (" from ".toList ++ (ip.chars ++ (' ' ::
    ("port ".toList ++ (port.chars ++ " ssh2".toList))))))

/-! ### Characters -/

section

variable {u : CharTables}

theorem ascii_of_isVisible {c : Char} (h : isVisible c = true) : c.toNat < 128 := by
  simp only [isVisible, Bool.and_eq_true, decide_eq_true_eq] at h
  omega

theorem isVisible_of_isDigit {c : Char} (h : c.isDigit = true) : isVisible c = true := by
  simp only [Char.isDigit, Bool.and_eq_true, decide_eq_true_eq] at h
  have hge : 48 ≤ c.val.toNat := UInt32.le_iff_toNat_le.mp h.1
  have hle : c.val.toNat ≤ 57 := UInt32.le_iff_toNat_le.mp h.2
  simp only [isVisible, Bool.and_eq_true, decide_eq_true_eq]
  exact ⟨show 33 ≤ c.val.toNat by omega, show c.val.toNat ≤ 126 by omega⟩

variable (hu : u.Ascii)

include hu

theorem space_of_isVisible {c : Char} (h : isVisible c = true) : u.space c = false := by
  rw [hu.space c (ascii_of_isVisible h)]
  simp only [isVisible, Bool.and_eq_true, decide_eq_true_eq] at h
  have hblank : c ≠ ' ' := by
    rintro rfl
    exact absurd h.1 (by decide)
  simp only [isAsciiSpace, hblank, decide_false, Bool.false_or, Bool.or_eq_false_iff,
    Bool.and_eq_false_iff, decide_eq_false_iff_not]
  omega

theorem digit_of_isDigit {c : Char} (h : c.isDigit = true) : u.digit c = true := by
  rw [hu.digit c (ascii_of_isDigit h), h]

theorem space_blank : u.space ' ' = true :=
  hu.space ' ' (by decide)

omit hu in
theorem head?_append_of_ne {w : List Char} (hne : w ≠ []) (more rest : List Char) :
    ∀ c ∈ ((w ++ more) ++ rest).head?, c ∈ w := by
  intro c hc
  obtain ⟨d, w, rfl⟩ := List.exists_cons_of_ne_nil hne
  obtain rfl : d = c := Option.some.inj hc
  exact List.mem_cons_self

theorem Token.head (w : Token) (more rest : List Char) :
    ∀ c ∈ ((w.chars ++ more) ++ rest).head?, u.space c = false :=
  fun c hc => space_of_isVisible hu (w.visible c (head?_append_of_ne w.nonempty more rest c hc))

theorem Number.head (n : Number) (more rest : List Char) :
    ∀ c ∈ ((n.chars ++ more) ++ rest).head?, u.space c = false :=
  fun c hc => space_of_isVisible hu
    (isVisible_of_isDigit (n.digits c (head?_append_of_ne n.nonempty more rest c hc)))

/-! ### What the parts of the patterns read -/

theorem reads_token (w : Token) {name : String} {rest : List Char} :
    Reads (.group name (solid u)) w.chars (' ' :: rest) [(name, w.chars)] := by
  refine Reads.group (reads_plus_one w.nonempty (fun c hc => ?_) fun c hc => ?_)
  · rw [space_of_isVisible hu (w.visible c hc)]
    rfl
  · obtain rfl : ' ' = c := Option.some.inj hc
    rw [space_blank hu]
    rfl

theorem reads_blank {rest : List Char} (hrest : ∀ c ∈ rest.head?, u.space c = false) :
    Reads (spaces u) [' '] rest [] := by
  refine reads_plus_one (List.cons_ne_nil _ _) (fun c hc => ?_) hrest
  rw [List.mem_singleton.mp hc]
  exact space_blank hu

theorem reads_number (n : Number) {name : String} {rest : List Char}
    (hrest : ∀ c ∈ rest.head?, u.digit c = false) :
    Reads (.group name (plus (digit u))) n.chars rest [(name, n.chars)] :=
  Reads.group (reads_plus_one n.nonempty
    (fun c hc => digit_of_isDigit hu (n.digits c hc)) hrest)

omit hu in
theorem reads_restOfLine {message : List Char} (h : ∀ c ∈ message, c ≠ '\n') :
    Reads restOfLine message [] [("rest", message)] := by
  have hmessage : Reads (.group "rest" (.star (.one fun c => decide (c ≠ '\n')))) message
      ([] ++ []) [("rest", message)] :=
    Reads.group (reads_star_one (fun c hc => decide_eq_true (h c hc)) (by simp))
  have hread := hmessage.seq (b := .atEnd fun c => decide (c = '\n')) reads_atEnd
  rwa [List.append_nil] at hread

/-- What the groups of `RFC5424` hold. -/
def Rfc5424Header.groups (h : Rfc5424Header) (message : List Char) : List (String × List Char) :=
  [("pri", h.pri.chars), ("version", h.version.chars), ("ts", h.timestamp.chars),
    ("host", h.host.chars), ("app", h.app.chars), ("proc", h.proc.chars),
    ("msgid", h.msgid.chars), ("rest", h.data.chars ++ ' ' :: message)]

omit hu in
theorem StructuredData.plain (data : StructuredData) {message : List Char}
    (h : ∀ c ∈ message, c ≠ '\n') : ∀ c ∈ data.chars ++ ' ' :: message, c ≠ '\n' := by
  intro c hc
  rcases List.mem_append.mp hc with hc | hc
  · cases data with
    | nil =>
      rw [List.mem_singleton.mp hc]
      decide
    | element body plain =>
      rcases List.mem_cons.mp hc with rfl | hc
      · decide
      · rcases List.mem_append.mp hc with hc | hc
        · exact (plain c hc).2
        · rw [List.mem_singleton.mp hc]
          decide
  · rcases List.mem_cons.mp hc with rfl | hc
    · decide
    · exact h c hc

theorem StructuredData.head (data : StructuredData) (more rest : List Char) :
    ∀ c ∈ ((data.chars ++ more) ++ rest).head?, u.space c = false := by
  intro c hc
  cases data with
  | nil =>
    obtain rfl : '-' = c := Option.some.inj hc
    exact space_of_isVisible hu (by decide)
  | element body plain =>
    obtain rfl : '[' = c := Option.some.inj hc
    exact space_of_isVisible hu (by decide)

theorem digit_of_ascii {c : Char} (h : c.toNat < 128) (hc : c.isDigit = false) :
    u.digit c = false := by
  rw [hu.digit c h, hc]

theorem reads_rfc5424 (h : Rfc5424Header) {message : List Char}
    (hmessage : ∀ c ∈ message, c ≠ '\n') :
    Reads (rfc5424Regex u) (h.line message) [] (h.groups message) := by
  have hrest := reads_restOfLine (h.data.plain hmessage)
  have hclose : ∀ {rest : List Char}, ∀ c ∈ ('>' :: rest).head?, u.digit c = false := by
    intro rest c hc
    obtain rfl : '>' = c := Option.some.inj hc
    exact digit_of_ascii hu (by decide) (by decide)
  have hblank : ∀ {rest : List Char}, ∀ c ∈ (' ' :: rest).head?, u.digit c = false := by
    intro rest c hc
    obtain rfl : ' ' = c := Option.some.inj hc
    exact digit_of_ascii hu (by decide) (by decide)
  exact Reads.cons (reads_literal "<") (Reads.cons (reads_number hu h.pri hclose)
    (Reads.cons (reads_literal ">") (Reads.cons (reads_number hu h.version hblank)
    (Reads.cons (reads_blank hu (h.timestamp.head hu _ _)) (Reads.cons (reads_token hu h.timestamp)
    (Reads.cons (reads_blank hu (h.host.head hu _ _)) (Reads.cons (reads_token hu h.host)
    (Reads.cons (reads_blank hu (h.app.head hu _ _)) (Reads.cons (reads_token hu h.app)
    (Reads.cons (reads_blank hu (h.proc.head hu _ _)) (Reads.cons (reads_token hu h.proc)
    (Reads.cons (reads_blank hu (h.msgid.head hu _ _)) (Reads.cons (reads_token hu h.msgid)
    (Reads.cons (reads_blank hu (h.data.head hu _ _)) hrest.last))))))))))))))

/-! ### Lines of RFC 3164 -/

def Rfc3164Header.groups (h : Rfc3164Header) (message : List Char) : List (String × List Char) :=
  [("pri", h.pri.chars), ("ts", h.stamp), ("host", h.host.chars), ("rest", message)]

theorem space_of_isDigit {c : Char} (h : c.isDigit = true) : u.space c = false :=
  space_of_isVisible hu (isVisible_of_isDigit h)

theorem reads_twoDigits (n : TwoDigits) {rest : List Char} :
    Reads (times 2 (digit u)) [n.tens, n.units] rest [] :=
  Reads.cons (reads_one (digit_of_isDigit hu n.tensDigit))
    (Reads.last (reads_one (digit_of_isDigit hu n.unitsDigit)))

theorem reads_upToDigits (n : Nat) {w rest : List Char} (hne : w ≠ []) (hlength : w.length ≤ n)
    (hw : ∀ c ∈ w, c.isDigit = true) (hrest : ∀ c ∈ rest.head?, u.digit c = false) :
    Reads (upToDigits u n) w rest [] := by
  obtain ⟨c, w, rfl⟩ := List.exists_cons_of_ne_nil hne
  obtain ⟨n, rfl⟩ : ∃ m, n = m + 1 := ⟨n - 1, by simp at hlength; omega⟩
  exact (reads_one (digit_of_isDigit hu (hw c List.mem_cons_self))).seq
    (reads_upTo (by simpa using hlength)
      (fun d hd => digit_of_isDigit hu (hw d (List.mem_cons_of_mem _ hd))) hrest)

theorem reads_blanks (h : Rfc3164Header) {rest : List Char}
    (hrest : ∀ c ∈ rest.head?, u.space c = false) : Reads (spaces u) h.blanks rest [] := by
  have hall : ∀ c ∈ h.blanks, u.space c = true := by
    intro c hc
    have hblank : c = ' ' := by
      unfold Rfc3164Header.blanks at hc
      split at hc <;> simpa using hc
    rw [hblank]
    exact space_blank hu
  have hne : h.blanks ≠ [] := by
    unfold Rfc3164Header.blanks
    split <;> simp
  exact reads_plus_one hne hall hrest

theorem reads_stamp (h : Rfc3164Header) {rest : List Char} :
    Reads (all [.one isUpper, times 2 (.one isLower), spaces u, upToDigits u 2, spaces u,
      times 2 (digit u), literal ":", times 2 (digit u), literal ":", times 2 (digit u)])
      h.stamp rest [] := by
  have hmonth : ∀ {rest : List Char},
      Reads (times 2 (.one isLower)) [h.month.2.1, h.month.2.2] rest [] :=
    Reads.cons (reads_one h.lowerCase.1) (Reads.last (reads_one h.lowerCase.2))
  have hblank : ∀ {more rest : List Char}, ∀ c ∈ (([' '] ++ more) ++ rest).head?,
      u.digit c = false := by
    intro more rest c hc
    obtain rfl : ' ' = c := Option.some.inj hc
    exact digit_of_ascii hu (by decide) (by decide)
  have hhour : ∀ {more rest : List Char},
      ∀ c ∈ (([h.hour.tens, h.hour.units] ++ more) ++ rest).head?, u.space c = false := by
    intro more rest c hc
    obtain rfl : h.hour.tens = c := Option.some.inj hc
    exact space_of_isDigit hu h.hour.tensDigit
  exact Reads.cons (reads_one h.upperCase) (Reads.cons hmonth
    (Reads.cons (reads_blanks hu h (h.day.head hu _ _))
    (Reads.cons (reads_upToDigits hu 2 h.day.nonempty h.short h.day.digits hblank)
    (Reads.cons (reads_blank hu hhour) (Reads.cons (reads_twoDigits hu h.hour)
    (Reads.cons (reads_literal ":") (Reads.cons (reads_twoDigits hu h.minute)
    (Reads.cons (reads_literal ":") (Reads.cons (reads_twoDigits hu h.second)
      reads_all_nil)))))))))

theorem reads_rfc3164 (h : Rfc3164Header) {message : List Char}
    (hmessage : ∀ c ∈ message, c ≠ '\n') (hhead : ∀ c ∈ message.head?, u.space c = false) :
    Reads (rfc3164Regex u) (h.line message) [] (h.groups message) := by
  have hclose : ∀ {rest : List Char}, ∀ c ∈ ('>' :: rest).head?, u.digit c = false := by
    intro rest c hc
    obtain rfl : '>' = c := Option.some.inj hc
    exact digit_of_ascii hu (by decide) (by decide)
  exact Reads.cons (reads_literal "<") (Reads.cons (reads_number hu h.pri hclose)
    (Reads.cons (reads_literal ">") (Reads.cons (Reads.group (reads_stamp hu h))
    (Reads.cons (reads_blank hu (h.host.head hu _ _)) (Reads.cons (reads_token hu h.host)
    (Reads.cons (reads_blank hu (by simpa using hhead)) (reads_restOfLine hmessage).last))))))

/-- A line without a version behind the priority is none of RFC 5424. -/
theorem rfc5424_none (pri : Number) {c : Char} (hc : u.digit c = false) (rest : List Char) :
    (rfc5424Regex u).matchStart ('<' :: (pri.chars ++ '>' :: c :: rest)) = none := by
  refine first_eq_none_iff.mpr (List.eq_nil_iff_forall_not_mem.mpr fun t ht => ?_)
  obtain ⟨m₁, h₁, ht⟩ := mem_seq ht
  obtain ⟨m₂, h₂, ht⟩ := mem_seq ht
  obtain ⟨m₃, h₃, ht⟩ := mem_seq ht
  obtain ⟨m₄, h₄, -⟩ := mem_seq ht
  have hopen := mem_literal h₁
  have hclose := mem_literal h₃
  obtain ⟨m₂', h₂, hm₂⟩ := mem_group h₂
  obtain ⟨w, -, hw, hafter⟩ := mem_plus_one h₂
  obtain ⟨m₄', h₄, -⟩ := mem_group h₄
  obtain ⟨v, hv, hdigits, hversion⟩ := mem_plus_one h₄
  have hstop : u.digit '>' = false := digit_of_ascii hu (by decide) (by decide)
  -- the digits read before the `>` are those of the priority
  have hsame : pri.chars ++ '>' :: c :: rest = w ++ '>' :: m₃.after := by
    have hrest : pri.chars ++ '>' :: c :: rest = m₁.after := (List.cons.inj hopen).2
    rw [hrest, hafter, hm₂, hclose]
    rfl
  have hpri := congrArg (List.dropWhile u.digit) hsame
  rw [List.dropWhile_append_of_pos fun d hd => digit_of_isDigit hu (pri.digits d hd),
    List.dropWhile_append_of_pos hw, List.dropWhile_cons_of_neg (by simp [hstop]),
    List.dropWhile_cons_of_neg (by simp [hstop])] at hpri
  obtain ⟨d, v, rfl⟩ := List.exists_cons_of_ne_nil hv
  rw [hversion] at hpri
  obtain rfl : c = d := (List.cons.inj (List.cons.inj hpri).2).1
  rw [hdigits c List.mem_cons_self] at hc
  cases hc

/-! ### What is found in the message -/

omit hu in
theorem isVisible_of_isNameChar {c : Char} (h : isNameChar c = true) : isVisible c = true := by
  simp only [isNameChar, isUpper, isLower, Bool.or_eq_true, Bool.and_eq_true,
    decide_eq_true_eq] at h
  rcases h with ((((h | h) | h) | rfl) | rfl) | rfl
  · simp only [isVisible, Bool.and_eq_true, decide_eq_true_eq]
    omega
  · simp only [isVisible, Bool.and_eq_true, decide_eq_true_eq]
    omega
  · exact isVisible_of_isDigit h
  · decide
  · decide
  · decide

theorem userRegex_none {known more before : List Char} (hascii : ∀ c ∈ known, c.toNat < 128)
    (h : ∀ word ∈ ["user", "account", "for"], ¬ word.toList <+: known.map Char.toLower ∧
      ¬ known.map Char.toLower <+: word.toList) :
    (userRegex u).first ⟨before, known ++ more, []⟩ = none := by
  have hword : ∀ word ∈ ["user", "account", "for"],
      (anyCase u word).run ⟨before, known ++ more, []⟩ = [] :=
    fun word hword => anyCase_none hu hascii (h word hword).1 (h word hword).2
  refine first_eq_none_iff.mpr (seq_none_left (alt_none (hword _ (by decide)) ?_))
  exact alt_none (hword _ (by decide)) (hword _ (by decide))

theorem reads_userRegex (name : AccountName) {rest : List Char} :
    Reads (userRegex u) ("for".toList ++ ([' '] ++ name.chars)) (' ' :: rest)
      [("1", name.chars)] := by
  have hhead : ∀ c ∈ (name.chars ++ ' ' :: rest).head?, u.space c = false := by
    intro c hc
    have hmem := head?_append_of_ne name.nonempty [] (' ' :: rest) c (by simpa using hc)
    exact space_of_isVisible hu (isVisible_of_isNameChar (name.plain c hmem))
  have hname : Reads (.group "1" (plus (.one fun c => isNameChar c || isNameChar (u.fold c))))
      name.chars (' ' :: rest) [("1", name.chars)] := by
    refine Reads.group (reads_plus_one name.nonempty (fun c hc => by simp [name.plain c hc])
      fun c hc => ?_)
    obtain rfl : ' ' = c := Option.some.inj hc
    rw [hu.fold ' ' (by decide)]
    decide
  have hother : ∀ word ∈ ["user", "account"], ∀ more before groups,
      (anyCase u word).run ⟨before, "for".toList ++ more, groups⟩ = [] := by
    intro word hword more before groups
    refine anyCase_none hu (forall_of_all (by decide)) ?_ ?_
    · revert word
      decide
    · revert word
      decide
  have hfor : ∀ {rest : List Char}, Reads (anyCase u "for") "for".toList rest [] :=
    reads_anyCase hu (forall_of_all (by decide)) (by decide)
  have hword : ∀ {rest : List Char},
      Reads (.alt (anyCase u "user") (.alt (anyCase u "account") (anyCase u "for")))
        "for".toList rest [] :=
    Reads.alt_right (fun _ _ => hother _ (by decide) _ _ _)
      (Reads.alt_right (fun _ _ => hother _ (by decide) _ _ _) hfor)
  exact Reads.cons hword (Reads.cons (reads_blank hu hhead) hname.last)

/-- The word behind `for` is taken for the user. -/
theorem search_user (name : AccountName) (rest : List Char) :
    ((userRegex u).search ("Failed password for ".toList ++ (name.chars ++ ' ' :: rest))).map
      groupTexts = some [String.ofList name.chars] := by
  have htext : "Failed password for ".toList ++ (name.chars ++ ' ' :: rest) =
      "Failed password ".toList ++ (("for".toList ++ ([' '] ++ name.chars)) ++ ' ' :: rest) := by
    rw [show "Failed password for ".toList = "Failed password ".toList ++ ("for".toList ++ [' '])
      from rfl]
    simp only [List.append_assoc]
  have hclash : ∀ w ∈ "Failed password ".toList.tails, w ≠ [] →
      ∀ word ∈ ["user", "account", "for"],
        ¬ word.toList <+: (w ++ "for ".toList).map Char.toLower ∧
          ¬ (w ++ "for ".toList).map Char.toLower <+: word.toList := by
    decide
  have hascii : ∀ w ∈ "Failed password ".toList.tails, ∀ c ∈ w ++ "for ".toList,
      c.toNat < 128 := by
    have hall : ∀ w ∈ "Failed password ".toList.tails,
        ((w ++ "for ".toList).all fun c => decide (c.toNat < 128)) = true := by
      decide
    exact fun w hw => forall_of_all (hall w hw)
  unfold search
  rw [htext, searchFrom_skip]
  · rw [searchFrom_here (reads_userRegex hu name _ [])]
    rfl
  · intro w₁ w₂ hw hne
    have hmem : w₂ ∈ "Failed password ".toList.tails :=
      (List.mem_tails w₂ _).mpr ⟨w₁, hw.symm⟩
    have hknown : (userRegex u).first ⟨w₁.reverse ++ [],
        (w₂ ++ "for ".toList) ++ (name.chars ++ ' ' :: rest), []⟩ = none :=
      userRegex_none hu (hascii w₂ hmem) (hclash w₂ hmem hne)
    simpa using hknown

/-- `Failed` tells the failure, `password` the authentication. -/
theorem search_keywords (rest : List Char) :
    ((failureRegex u).search ("Failed password ".toList ++ rest)).isSome = true ∧
      ((authRegex u).search ("Failed password ".toList ++ rest)).isSome = true := by
  have hfail : Reads (failureRegex u) "Fail".toList ("ed password ".toList ++ rest) [] :=
    Reads.alt_left (reads_anyCase hu (forall_of_all (by decide)) (by decide))
  have hauth : Reads (authRegex u) "password".toList ([' '] ++ rest) [] :=
    Reads.alt_left (reads_anyCase hu (forall_of_all (by decide)) (by decide))
  have hfront : "Failed password ".toList = "Fail".toList ++ "ed password ".toList := by decide
  have hback : "Failed password ".toList = "Failed ".toList ++ ("password".toList ++ [' ']) := by
    decide
  constructor
  · unfold search
    rw [hfront, List.append_assoc, searchFrom_here (hfail [] [])]
    rfl
  · unfold search
    rw [hback, List.append_assoc, List.append_assoc]
    refine searchFrom_isSome ?_
    rw [hauth]
    rfl

/-! ### Addresses -/

omit hu in
theorem octet_digits (n : UInt8) : octet n ≠ [] ∧ (octet n).length ≤ 3 ∧
    ∀ c ∈ octet n, c.isDigit = true := by
  have hall : ∀ n < 256, Nat.toDigits 10 n ≠ [] ∧ (Nat.toDigits 10 n).length ≤ 3 ∧
      ((Nat.toDigits 10 n).all fun c => c.isDigit) = true := by
    decide +kernel
  obtain ⟨hne, hlength, hdigits⟩ := hall n.toNat n.toNat_lt
  exact ⟨hne, hlength, List.all_eq_true.mp hdigits⟩

theorem avoids_addressRegex : Avoids ' ' (addressRegex u) := by
  have hdigit : u.digit ' ' = false := digit_of_ascii hu (by decide) (by decide)
  have hword : u.word ' ' = false := (hu.word ' ' (by decide)).trans (by decide)
  simp [addressRegex, times, all, List.replicate, upToDigits, upTo, Regex.optional, literal, digit,
    Avoids, hdigit, hword]

omit hu in
/-- An address begins with a digit. -/
theorem addressRegex_none {c : Char} (hc : u.digit c = false) (before rest : List Char) :
    (addressRegex u).first ⟨before, c :: rest, []⟩ = none := by
  refine first_eq_none_iff.mpr (List.eq_nil_iff_forall_not_mem.mpr fun t ht => ?_)
  obtain ⟨m, hm, -⟩ := mem_group ht
  obtain ⟨m₁, h₁, hm⟩ := mem_seq hm
  obtain rfl := mem_boundary h₁
  obtain ⟨m₂, h₂, -⟩ := mem_seq hm
  obtain ⟨m₃, h₃, -⟩ := mem_seq h₂
  obtain ⟨m₄, h₄, -⟩ := mem_seq h₃
  obtain ⟨m₅, h₅, -⟩ := mem_seq h₄
  obtain ⟨d, hafter, hd⟩ := mem_one h₅
  obtain rfl : c = d := (List.cons.inj hafter).1
  rw [hc] at hd
  cases hd

omit hu in
theorem search_skip {w : List Char} (hw : ∀ c ∈ w, u.digit c = false) (before rest : List Char) :
    searchFrom (addressRegex u) before (w ++ rest) =
      searchFrom (addressRegex u) (w.reverse ++ before) rest := by
  refine searchFrom_skip fun w₁ w₂ hsplit hne => ?_
  obtain ⟨c, w₂, rfl⟩ := List.exists_cons_of_ne_nil hne
  refine addressRegex_none (hw c ?_) _ _
  rw [hsplit]
  exact List.mem_append_right _ List.mem_cons_self

theorem reads_octet (n : UInt8) {c : Char} {rest : List Char} (hc : u.digit c = false) :
    Reads (upToDigits u 3) (octet n) (c :: rest) [] := by
  obtain ⟨hne, hlength, hdigits⟩ := octet_digits n
  refine reads_upToDigits hu 3 hne hlength hdigits fun d hd => ?_
  obtain rfl : c = d := Option.some.inj hd
  exact hc

theorem word_of_isDigit {c : Char} (h : c.isDigit = true) : u.word c = true := by
  rw [hu.word c (ascii_of_isDigit h)]
  simp [Char.isAlphanum, h]

/-- An address between two blanks is read as it is. -/
theorem first_address (ip : Ipv4) (before rest : List Char) :
    (addressRegex u).first ⟨' ' :: before, ip.chars ++ ' ' :: rest, []⟩ =
      some ⟨ip.chars.reverse ++ ' ' :: before, ' ' :: rest, [("0", ip.chars)]⟩ := by
  have hdot : u.digit '.' = false := digit_of_ascii hu (by decide) (by decide)
  have hblank : u.digit ' ' = false := digit_of_ascii hu (by decide) (by decide)
  have hword : u.word ' ' = false := (hu.word ' ' (by decide)).trans (by decide)
  have hpart : ∀ (n : UInt8) {rest : List Char},
      Reads (.seq (upToDigits u 3) (literal ".")) (octet n ++ ['.']) rest [] :=
    fun n => Reads.seq (reads_octet hu n hdot) (reads_literal ".")
  have hparts : ∀ {rest : List Char}, Reads (times 3 (.seq (upToDigits u 3) (literal ".")))
      ((octet ip.a ++ ['.']) ++ ((octet ip.b ++ ['.']) ++ (octet ip.c ++ ['.']))) rest [] :=
    Reads.cons (hpart _) (Reads.cons (hpart _) (Reads.last (hpart _)))
  obtain ⟨hneA, -, hdigitsA⟩ := octet_digits ip.a
  obtain ⟨hneD, -, hdigitsD⟩ := octet_digits ip.d
  generalize hw : (octet ip.a ++ ['.']) ++ ((octet ip.b ++ ['.']) ++ (octet ip.c ++ ['.'])) = w
    at hparts
  have hchars : ip.chars = w ++ octet ip.d := by
    rw [← hw]
    rfl
  have hfront : (Regex.boundary u.word).first ⟨' ' :: before, ip.chars ++ ' ' :: rest, []⟩ =
      some ⟨' ' :: before, ip.chars ++ ' ' :: rest, []⟩ := by
    refine first_boundary ?_
    obtain ⟨c, more, hc⟩ := List.exists_cons_of_ne_nil hneA
    have hcons : ip.chars ++ ' ' :: rest = c :: (ip.chars ++ ' ' :: rest).tail := by
      unfold Ipv4.chars
      rw [hc]
      rfl
    rw [hcons]
    simp [hword, word_of_isDigit hu (hdigitsA c (hc ▸ List.mem_cons_self))]
  have hback : (Regex.boundary u.word).first
      ⟨(octet ip.d).reverse ++ (w.reverse ++ ' ' :: before), ' ' :: rest, []⟩ =
      some ⟨(octet ip.d).reverse ++ (w.reverse ++ ' ' :: before), ' ' :: rest, []⟩ := by
    refine first_boundary ?_
    obtain ⟨c, more, hc⟩ := List.exists_cons_of_ne_nil (List.reverse_ne_nil_iff.mpr hneD)
    have hdigit : c.isDigit = true :=
      hdigitsD c (List.mem_reverse.mp (hc ▸ List.mem_cons_self))
    rw [hc]
    simp [hword, word_of_isDigit hu hdigit]
  have hread : (all [.boundary u.word, times 3 (.seq (upToDigits u 3) (literal ".")),
      upToDigits u 3, .boundary u.word]).first ⟨' ' :: before, ip.chars ++ ' ' :: rest, []⟩ =
        some ⟨(octet ip.d).reverse ++ (w.reverse ++ ' ' :: before), ' ' :: rest, []⟩ := by
    refine first_seq hfront ?_
    rw [hchars, List.append_assoc]
    exact first_seq (hparts _ _) (first_seq (reads_octet hu ip.d hblank _ _)
      (first_seq hback first_empty))
  refine (first_group hread).trans ?_
  rw [between_of_ahead (w := ip.chars) (by rw [hchars]; simp), hchars]
  simp

theorem no_digit {w : List Char} (h : ∀ c ∈ w, c.toNat < 128 ∧ c.isDigit = false) :
    ∀ c ∈ w, u.digit c = false :=
  fun c hc => digit_of_ascii hu (h c hc).1 (h c hc).2

/-- What is taken for the address of a failure: the first one in the name, or else the one that it
came from. -/
theorem search_address (account : Account) (name : AccountName) (ip : Ipv4) (port : Number) :
    (search (addressRegex u) (failureMessage account name ip port)).map matchedText =
      some (((search (addressRegex u) name.chars).map matchedText).getD
        (String.ofList ip.chars)) := by
  obtain ⟨front, hfront⟩ : ∃ front, account.opening.reverse = ' ' :: front := by
    cases account
    · exact ⟨"rof drowssap deliaF".toList, by decide⟩
    · exact ⟨"resu dilavni rof drowssap deliaF".toList, by decide⟩
  have hopening : ∀ c ∈ account.opening, u.digit c = false := by
    refine no_digit hu ?_
    cases account <;> exact forall_of_all (by decide)
  have hfrom : " from ".toList = ' ' :: "from ".toList := by decide
  have hplain : ∀ c ∈ " from ".toList, u.digit c = false :=
    no_digit hu (forall_of_all (by decide))
  have hreverse : " from ".toList.reverse = ' ' :: "morf ".toList := by decide
  generalize htail : "port ".toList ++ (port.chars ++ " ssh2".toList) = tail
  have hlater : searchFrom (addressRegex u) (name.chars.reverse ++ ' ' :: front)
      (" from ".toList ++ (ip.chars ++ ' ' :: tail)) = some
        ⟨ip.chars.reverse ++ ' ' :: ("morf ".toList ++ (name.chars.reverse ++ ' ' :: front)),
          ' ' :: tail, [("0", ip.chars)]⟩ := by
    rw [search_skip hplain, hreverse]
    exact searchFrom_here (first_address hu ip _ _)
  have hrun : search (addressRegex u) (failureMessage account name ip port) =
      ((search (addressRegex u) name.chars).map
        (within ' ' front ("from ".toList ++ (ip.chars ++ ' ' :: tail)))).or
      (searchFrom (addressRegex u) (name.chars.reverse ++ ' ' :: front)
        (" from ".toList ++ (ip.chars ++ ' ' :: tail))) := by
    unfold search failureMessage
    rw [search_skip hopening, List.append_nil, hfront, htail, hfrom]
    refine (searchFrom_within (avoids_addressRegex hu) [] name.chars).trans ?_
    rw [List.append_nil]
    rfl
  rw [hrun, hlater]
  cases search (addressRegex u) name.chars <;> rfl

/-! ### Headers -/

omit hu in
theorem failureMessage_plain (account : Account) (name : AccountName) (ip : Ipv4) (port : Number) :
    ∀ c ∈ failureMessage account name ip port, c ≠ '\n' := by
  have hdigit : ∀ c : Char, c.isDigit = true → c ≠ '\n' := by
    rintro c hc rfl
    exact absurd hc (by decide)
  have hopening : ∀ c ∈ account.opening, c ≠ '\n' := by
    cases account <;> exact forall_of_all (by decide)
  have hname : ∀ c ∈ name.chars, c ≠ '\n' := by
    rintro c hc rfl
    exact absurd (name.plain _ hc) (by decide)
  have hfrom : ∀ c ∈ " from ".toList, c ≠ '\n' := forall_of_all (by decide)
  have hport : ∀ c ∈ "port ".toList, c ≠ '\n' := forall_of_all (by decide)
  have hend : ∀ c ∈ " ssh2".toList, c ≠ '\n' := forall_of_all (by decide)
  have hoctet : ∀ n, ∀ c ∈ octet n, c ≠ '\n' :=
    fun n c hc => hdigit c ((octet_digits n).2.2 c hc)
  intro c hc
  simp only [failureMessage, Ipv4.chars, List.mem_append, List.mem_cons, List.not_mem_nil,
    or_false] at hc
  rcases hc with hc | hc | hc | (((hc | rfl) | (hc | rfl) | hc | rfl) | hc) | rfl | hc | hc | hc
  · exact hopening c hc
  · exact hname c hc
  · exact hfrom c hc
  · exact hoctet _ c hc
  · decide
  · exact hoctet _ c hc
  · decide
  · exact hoctet _ c hc
  · decide
  · exact hoctet _ c hc
  · decide
  · exact hport c hc
  · exact hdigit c (port.digits c hc)
  · exact hend c hc

omit hu in
theorem head?_failureMessage (account : Account) (name : AccountName) (ip : Ipv4)
    (port : Number) : (failureMessage account name ip port).head? = some 'F' := by
  cases account <;> rfl

omit hu in
theorem getLast?_failureMessage (account : Account) (name : AccountName) (ip : Ipv4)
    (port : Number) : (failureMessage account name ip port).getLast? = some '2' := by
  have hend : " ssh2".toList = " ssh".toList ++ ['2'] := by decide
  unfold failureMessage
  rw [hend]
  simp only [← List.append_assoc, ← List.cons_append]
  exact List.getLast?_concat

/-- A message that stands alone on its line. -/
structure Message (u : CharTables) where
  chars : List Char
  plain : ∀ c ∈ chars, c ≠ '\n'
  head : ∀ c ∈ chars.head?, u.space c = false
  last : ∀ c ∈ chars.getLast?, u.space c = false

omit hu in
theorem messageOf_nil {rt : Runtime} (message : List Char) :
    messageOf rt (String.ofList ('-' :: ' ' :: message)) = String.ofList message := by
  unfold messageOf
  rw [if_pos, String.toList_ofList]
  · rfl
  · rw [String.startsWith_string_iff, String.toList_ofList, String.toList_ofList]
    exact ⟨message, rfl⟩

theorem messageOf_element {rt : Runtime} (hrt : Engine rt u) {body : List Char}
    (hbody : ∀ c ∈ body, c ≠ ']') (message : Message u) :
    messageOf rt (String.ofList ('[' :: (body ++ ']' :: ' ' :: message.chars))) =
      String.ofList message.chars := by
  have hnot : ¬ (String.ofList ('[' :: (body ++ ']' :: ' ' :: message.chars))).startsWith "- " =
      true := by
    rw [String.startsWith_string_iff, String.toList_ofList, String.toList_ofList]
    rintro ⟨more, hmore⟩
    exact absurd (List.cons.inj hmore).1 (by decide)
  have hbracket : (String.ofList ('[' :: (body ++ ']' :: ' ' :: message.chars))).startsWith "[" =
      true := by
    rw [String.startsWith_string_iff, String.toList_ofList, String.toList_ofList]
    exact ⟨_, rfl⟩
  have hdrop : (('[' :: (body ++ ']' :: ' ' :: message.chars)).dropWhile (· ≠ ']')).drop 1 =
      [' '] ++ message.chars ++ [] := by
    rw [List.dropWhile_cons_of_pos (by decide), List.dropWhile_append_of_pos
      (fun c hc => decide_eq_true (hbody c hc)), List.dropWhile_cons_of_neg (by simp)]
    simp
  unfold messageOf
  rw [if_neg hnot, if_pos hbracket, String.toList_ofList, if_pos (by simp), hdrop]
  refine hrt.strip _ _ _ (fun c hc => ?_) nofun message.head message.last
  rw [List.mem_singleton.mp hc]
  exact space_blank hu

theorem messageOf_rest {rt : Runtime} (hrt : Engine rt u) (data : StructuredData)
    (message : Message u) :
    messageOf rt (String.ofList (data.chars ++ ' ' :: message.chars)) =
      String.ofList message.chars := by
  cases data with
  | nil => exact messageOf_nil message.chars
  | element body plain =>
    have helement := messageOf_element hu hrt (fun c hc => (plain c hc).1) message
    simpa [StructuredData.chars] using helement

omit hu in
theorem timestampOf_ok {rt : Runtime} {stamp : List Char}
    (h : stamp = ['-'] ∨ ∃ d, rt.fromisoformat (replaceZ (String.ofList stamp)) = .ok d)
    (t : Ticks) : ∃ d t', timestampOf rt (String.ofList stamp) t = (.ok d, t') := by
  unfold timestampOf
  split
  · exact ⟨_, _, rfl⟩
  · rename_i hgiven
    rcases h with rfl | ⟨d, hd⟩
    · exact absurd (by decide) hgiven
    · rw [hd]
      exact ⟨d, t, rfl⟩

/-- What becomes of a line: its message is behind its header. -/
theorem header_of_line {rt : Runtime} (hrt : Engine rt u) (h : LineHeader) (hstamped : h.Stamped rt)
    (message : Message u) (t : Ticks) :
    ∃ found t', header rt (String.ofList (h.line message.chars)) t = (.ok found, t') ∧
      found.message = String.ofList message.chars := by
  unfold header
  cases h with
  | rfc5424 h =>
    have hread := reads_rfc5424 hu h message.plain [] []
    have hmatch : rt.reMatch rfc5424 (String.ofList (h.line message.chars)) =
        some ((h.groups message.chars).map fun g => (g.1, String.ofList g.2)) := by
      rw [hrt.rfc5424, String.toList_ofList]
      unfold matchStart
      rw [List.append_nil] at hread
      rw [hread]
      rfl
    obtain ⟨stamp, t', hstamp⟩ := timestampOf_ok hstamped t
    unfold LineHeader.line
    dsimp only
    rw [hmatch]
    have hmessage := messageOf_rest hu hrt h.data message
    refine ⟨{
      parsed := (h.groups message.chars).map fun g => (g.1, String.ofList g.2)
      timestamp := stamp
      host := String.ofList h.host.chars
      app := String.ofList h.app.chars
      message := messageOf rt (String.ofList (h.data.chars ++ ' ' :: message.chars)) },
      t', ?_, hmessage⟩
    dsimp only
    rw [bind_run]
    unfold Rfc5424Header.groups
    simp only [List.map_cons, List.map_nil, List.lookup_cons, String.reduceBEq,
      beq_self_eq_true, Option.getD_some]
    rw [hstamp]
    rfl
  | rfc3164 h =>
    have hupper : u.digit h.month.1 = false := by
      have hascii := h.upperCase
      simp only [isUpper, Bool.and_eq_true, decide_eq_true_eq] at hascii
      refine digit_of_ascii hu (by omega) ?_
      rw [Bool.eq_false_iff]
      intro hdigit
      simp only [Char.isDigit, Bool.and_eq_true, decide_eq_true_eq] at hdigit
      have hle : h.month.1.val.toNat ≤ 57 := UInt32.le_iff_toNat_le.mp hdigit.2
      have hge : 65 ≤ h.month.1.val.toNat := hascii.1
      omega
    have hother : rt.reMatch rfc5424 (String.ofList (h.line message.chars)) = none := by
      rw [hrt.rfc5424, String.toList_ofList]
      exact congrArg _ (rfc5424_none hu h.pri hupper _)
    have hread := reads_rfc3164 hu h message.plain message.head [] []
    have hmatch : rt.reMatch rfc3164 (String.ofList (h.line message.chars)) =
        some ((h.groups message.chars).map fun g => (g.1, String.ofList g.2)) := by
      rw [hrt.rfc3164, String.toList_ofList]
      unfold matchStart
      rw [List.append_nil] at hread
      rw [hread]
      rfl
    unfold LineHeader.line
    dsimp only
    rw [hother, hmatch]
    exact ⟨_, _, rfl, rfl⟩

/-! ### Events -/

/-- The word behind the first `for`. -/
def takenUser : Account → AccountName → List Char
  | .known, name => name.chars
  | .invalid, _ => "invalid".toList

/-- The first address in the name, or else the one behind it. -/
def takenAddress (u : CharTables) (name : AccountName) (ip : Ipv4) : String :=
  ((search (addressRegex u) name.chars).map matchedText).getD (String.ofList ip.chars)

theorem search_takenUser (account : Account) (name : AccountName) (ip : Ipv4) (port : Number) :
    ((userRegex u).search (failureMessage account name ip port)).map groupTexts =
      some [String.ofList (takenUser account name)] := by
  have hfrom : " from ".toList = ' ' :: "from ".toList := by decide
  unfold failureMessage
  cases account with
  | known =>
    rw [hfrom]
    exact search_user hu name _
  | invalid =>
    have hsplit : Account.invalid.opening =
        "Failed password for ".toList ++ ("invalid".toList ++ ' ' :: "user ".toList) := by decide
    rw [hsplit, List.append_assoc, List.append_assoc]
    exact search_user hu ⟨"invalid".toList, by decide, forall_of_all (by decide)⟩ _

def failureMessage.message (account : Account) (name : AccountName) (ip : Ipv4) (port : Number) :
    Message u where
  chars := failureMessage account name ip port
  plain := failureMessage_plain account name ip port
  head := by
    intro c hc
    rw [head?_failureMessage] at hc
    obtain rfl := Option.some.inj hc
    exact space_of_isVisible hu (by decide)
  last := by
    intro c hc
    rw [getLast?_failureMessage] at hc
    obtain rfl := Option.some.inj hc
    exact space_of_isVisible hu (by decide)

theorem strip_line {rt : Runtime} (hrt : Engine rt u) (h : LineHeader) (message : Message u)
    (hne : message.chars ≠ []) :
    rt.strip (String.ofList (h.line message.chars)) = String.ofList (h.line message.chars) := by
  have hstrip := hrt.strip [] (h.line message.chars) [] nofun nofun ?_ ?_
  · simpa using hstrip
  · intro c hc
    have hopen : (h.line message.chars).head? = some '<' := by cases h <;> rfl
    rw [hopen] at hc
    obtain rfl := Option.some.inj hc
    exact space_of_isVisible hu (by decide)
  · intro c hc
    refine message.last c ?_
    obtain ⟨d, hd⟩ : ∃ d, message.chars.getLast? = some d :=
      Option.isSome_iff_exists.mp (by simpa using hne)
    have hlast : (h.line message.chars).getLast? = message.chars.getLast? := by
      cases h with
      | rfc5424 h =>
        simp [LineHeader.line, Rfc5424Header.line, List.getLast?_append, List.getLast?_cons, hd]
      | rfc3164 h =>
        simp [LineHeader.line, Rfc3164Header.line, List.getLast?_append, List.getLast?_cons, hd]
    rwa [hlast] at hc

omit hu in
theorem new_syslogEvent {rt : Runtime} {tenantId : String}
    (htenant : tenantId.startsWith "ten_" = true) (id app user message : String)
    (timestamp ingestedAt : DateTime) (host : CanonicalHost) (src dst : Option String)
    (raw : JsonObject) :
    CanonicalEvent.new rt
      [("id", .json (.str id)), ("tenant_id", .json (.str tenantId)),
       ("timestamp", .datetime timestamp), ("ingested_at", .datetime ingestedAt),
       ("source", .json (.str "syslog")), ("source_type", .json (.str app)),
       ("event_type", .json (.str "syslog")), ("category", .json (.str "authentication")),
       ("user", .user { name := some user }), ("host", .host host),
       ("src_ip", .json (Json.ofOption src)), ("dst_ip", .json (Json.ofOption dst)),
       ("action", .json (.str "log")), ("outcome", .json (.str "failure")),
       ("raw_event", .json (.obj raw)),
       ("attributes", .json (.obj
         [("adapter", .str "syslog"), ("message", .str message)]))] =
      .ok
        { id := id, tenantId := tenantId, timestamp := timestamp, ingestedAt := ingestedAt
          source := "syslog", sourceType := app, eventType := "syslog"
          category := "authentication", user := some { name := some user }, host := some host
          srcIp := src, dstIp := dst, action := some "log", outcome := some .failure
          rawEvent := raw
          attributes := [("adapter", .str "syslog"), ("message", .str message)] } := by
  refine CanonicalEvent.new_of_supplied ?_
  constructor
  case tenantId => exact Field.required_good rfl (Field.tenant_good htenant)
  case id | timestamp | ingestedAt | source | sourceType | eventType | category =>
    exact Field.required_good rfl rfl
  case user | host | action => exact Field.optional_good rfl nofun rfl
  case srcIp | dstIp => exact Field.optional_text_good rfl
  case outcome => exact Field.optional_outcome_good rfl
  case rawEvent | attributes => exact Field.withDefault_good rfl rfl
  case severity | confidence | riskScore | schemaVersion => exact Field.withDefault_absent rfl
  all_goals exact Field.optional_absent rfl

/-- What the adapter makes of a failed login. -/
theorem event_of_failure {rt : Runtime} (hrt : Engine rt u) {h : LineHeader}
    (hstamped : h.Stamped rt) (account : Account) (name : AccountName) (ip : Ipv4) (port : Number)
    {tenantId : String} (htenant : tenantId.startsWith "ten_" = true) (t : Ticks) :
    ∃ event, (parseSyslogLine rt
        (String.ofList (h.line (failureMessage account name ip port))) tenantId t).1 = .ok event ∧
      event.category = "authentication" ∧ event.outcome = some .failure ∧
      event.user = some { name := some (String.ofList (takenUser account name)) } ∧
      event.srcIp = some (takenAddress u name ip) := by
  have hne : failureMessage account name ip port ≠ [] := by
    intro h
    have hhead := head?_failureMessage account name ip port
    rw [h] at hhead
    cases hhead
  have hstrip : rt.strip (String.ofList (h.line (failureMessage account name ip port))) =
      String.ofList (h.line (failureMessage account name ip port)) :=
    strip_line hu hrt h (failureMessage.message hu account name ip port) hne
  obtain ⟨found, t', hheader, hmessage⟩ : ∃ found t',
      header rt (String.ofList (h.line (failureMessage account name ip port))) t =
        (.ok found, t') ∧ found.message = String.ofList (failureMessage account name ip port) :=
    header_of_line hu hrt h hstamped (failureMessage.message hu account name ip port) t
  generalize htext : String.ofList (h.line (failureMessage account name ip port)) = text
    at hstrip hheader
  have hgiven : text ≠ "" := by
    rw [← htext]
    intro hempty
    have hchars := congrArg String.toList hempty
    rw [String.toList_ofList] at hchars
    cases h <;> cases hchars
  have huser : (rt.reSearch "(?:user|account|for)\\s+([A-Za-z0-9_.-]+)" found.message).bind
      (fun groups => groups.head?) = some (String.ofList (takenUser account name)) := by
    rw [hrt.user, hmessage, String.toList_ofList]
    exact congrArg (·.bind fun groups => groups.head?) (search_takenUser hu account name ip port)
  have haddress : (rt.reFindall ipPattern found.message)[0]? = some (takenAddress u name ip) := by
    rw [hrt.address, hmessage, String.toList_ofList, ← List.head?_eq_getElem?, List.head?_map,
      head?_findAll]
    exact search_address hu account name ip port
  obtain ⟨hfailed, hauth⟩ :
      (rt.reSearch "fail|denied|invalid|refused" found.message).isSome = true ∧
        (rt.reSearch "password|login|auth|sshd" found.message).isSome = true := by
    obtain ⟨rest, hrest⟩ : ∃ rest,
        failureMessage account name ip port = "Failed password ".toList ++ rest := by
      have hopening : ∃ more, account.opening = "Failed password ".toList ++ more := by
        cases account
        · exact ⟨"for ".toList, by decide⟩
        · exact ⟨"for invalid user ".toList, by decide⟩
      obtain ⟨more, hmore⟩ := hopening
      unfold failureMessage
      rw [hmore, List.append_assoc]
      exact ⟨_, rfl⟩
    rw [hrt.failure, hrt.auth, hmessage, String.toList_ofList, Option.isSome_map,
      Option.isSome_map, hrest]
    exact search_keywords hu rest
  unfold parseSyslogLine
  rw [hstrip, if_neg hgiven, bind_run]
  simp only [hheader, andThen, huser, haddress, hfailed, hauth, bind_run, newId, utcnow, lift,
    if_true, new_syslogEvent htenant]
  exact ⟨_, rfl, rfl, rfl, rfl, rfl⟩

end

/-- The line becomes a failed authentication of this account, from this address. -/
def ParsedRight (rt : Runtime) (line : List Char) (tenantId : String) (t : Ticks)
    (name : AccountName) (ip : Ipv4) : Prop :=
  ∃ event, (parseSyslogLine rt (String.ofList line) tenantId t).1 = .ok event ∧
    event.category = "authentication" ∧ event.outcome = some .failure ∧
    event.user.bind (·.name) = some (String.ofList name.chars) ∧
    event.srcIp = some (String.ofList ip.chars)

/-- A failed login is read right if its account is there, or called `invalid`, and the name holds no
address, or that one first. -/
theorem failure_parsed_iff (rt : Runtime) (u : CharTables) (hu : u.Ascii) (hrt : Engine rt u)
    (h : LineHeader) (hstamped : h.Stamped rt) (account : Account) (name : AccountName) (ip : Ipv4)
    (port : Number) (tenantId : String) (htenant : tenantId.startsWith "ten_" = true) (t : Ticks) :
    ParsedRight rt (h.line (failureMessage account name ip port)) tenantId t name ip ↔
      (account = .known ∨ name.chars = "invalid".toList) ∧
        ∀ found, (search (addressRegex u) name.chars).map matchedText = some found →
          found = String.ofList ip.chars := by
  obtain ⟨event, hrun, hcategory, houtcome, huser, hsrc⟩ :=
    event_of_failure hu hrt hstamped account name ip port htenant t
  have hright : ParsedRight rt (h.line (failureMessage account name ip port)) tenantId t name ip ↔
      takenUser account name = name.chars ∧ takenAddress u name ip = String.ofList ip.chars := by
    constructor
    · rintro ⟨event', hrun', -, -, huser', hsrc'⟩
      obtain rfl := Except.ok.inj (hrun.symm.trans hrun')
      rw [huser] at huser'
      rw [hsrc] at hsrc'
      exact ⟨String.ofList_injective (Option.some.inj huser'), Option.some.inj hsrc'⟩
    · rintro ⟨hname, haddress⟩
      refine ⟨event, hrun, hcategory, houtcome, ?_, ?_⟩
      · rw [huser, hname]
        rfl
      · rw [hsrc, haddress]
  rw [hright]
  refine and_congr ?_ ?_
  · cases account with
    | known => simp [takenUser]
    | invalid => simp [takenUser, eq_comm]
  · unfold takenAddress
    cases (search (addressRegex u) name.chars).map matchedText with
    | none => simp
    | some found => simp

/-! ### Samples -/

/-- A runtime that knows the patterns of the adapter. -/
def syslogRuntime : Runtime :=
  { sampleRuntime with
    strip := fun text => String.ofList
      ((text.toList.dropWhile isAsciiSpace).reverse.dropWhile isAsciiSpace).reverse
    reMatch := fun pattern text =>
      if pattern = rfc5424 then
        ((rfc5424Regex asciiTables).matchStart text.toList).map named
      else ((rfc3164Regex asciiTables).matchStart text.toList).map named
    reSearch := fun pattern text =>
      if pattern = "fail|denied|invalid|refused" then
        ((failureRegex asciiTables).search text.toList).map groupTexts
      else if pattern = "password|login|auth|sshd" then
        ((authRegex asciiTables).search text.toList).map groupTexts
      else ((userRegex asciiTables).search text.toList).map groupTexts
    reFindall := fun _ text =>
      ((addressRegex asciiTables).findAll text.toList).map matchedText }

theorem strip_blanks {left middle right : List Char} (hleft : ∀ c ∈ left, isAsciiSpace c = true)
    (hright : ∀ c ∈ right, isAsciiSpace c = true)
    (hhead : ∀ c ∈ middle.head?, isAsciiSpace c = false)
    (hlast : ∀ c ∈ middle.getLast?, isAsciiSpace c = false) :
    (((left ++ middle ++ right).dropWhile isAsciiSpace).reverse.dropWhile isAsciiSpace).reverse =
      middle := by
  have hblank : ∀ {w more : List Char}, (∀ c ∈ w, isAsciiSpace c = true) →
      (∀ c ∈ more.head?, isAsciiSpace c = false) →
      (w ++ more).dropWhile isAsciiSpace = more := by
    intro w more hw hmore
    rw [List.dropWhile_append_of_pos hw]
    cases more with
    | nil => rfl
    | cons c more => exact List.dropWhile_cons_of_neg (by simpa using hmore c rfl)
  rcases List.eq_nil_or_concat middle with rfl | ⟨front, d, hmiddle⟩
  · have hdrop : (left ++ right).dropWhile isAsciiSpace = [] := by
      rw [List.dropWhile_append_of_pos hleft, ← List.append_nil right,
        List.dropWhile_append_of_pos hright, List.dropWhile_nil]
    rw [List.append_nil, hdrop]
    rfl
  · have hbehind : ∀ c ∈ (middle ++ right).head?, isAsciiSpace c = false := by
      intro c hc
      refine hhead c ?_
      cases middle with
      | nil => simp at hmiddle
      | cons e middle => exact hc
    rw [List.append_assoc, hblank hleft hbehind, List.reverse_append]
    rw [hblank (fun c hc => hright c (List.mem_reverse.mp hc)) (fun c hc => ?_),
      List.reverse_reverse]
    rw [List.head?_reverse] at hc
    exact hlast c hc

theorem engine_syslogRuntime : Engine syslogRuntime asciiTables where
  rfc5424 text := by simp [syslogRuntime]
  rfc3164 text := by
    have hne : rfc3164 ≠ rfc5424 := by decide
    simp [syslogRuntime, hne]
  user text := by simp [syslogRuntime]
  failure text := by simp [syslogRuntime]
  auth text := by simp [syslogRuntime]
  address _ := rfl
  strip left middle right hleft hright hhead hlast := by
    show String.ofList _ = String.ofList _
    rw [String.toList_ofList, strip_blanks hleft hright hhead hlast]

/-- `<38>Oct 11 22:14:15 web1 ` -/
def sampleHeader : LineHeader :=
  .rfc3164
    { pri := ⟨"38".toList, by decide, forall_of_all (by decide)⟩
      month := ('O', 'c', 't')
      upperCase := by decide
      lowerCase := by decide
      day := ⟨"11".toList, by decide, forall_of_all (by decide)⟩
      short := by decide
      hour := ⟨'2', '2', by decide, by decide⟩
      minute := ⟨'1', '4', by decide, by decide⟩
      second := ⟨'1', '5', by decide, by decide⟩
      host := ⟨"web1".toList, by decide, forall_of_all (by decide)⟩ }

def alice : AccountName :=
  ⟨"alice".toList, by decide, forall_of_all (by decide)⟩

def samplePort : Number :=
  ⟨"4242".toList, by decide, forall_of_all (by decide)⟩

theorem failure_parsed_alice :
    ParsedRight syslogRuntime
      (sampleHeader.line (failureMessage .known alice ⟨10, 0, 0, 8⟩ samplePort)) "ten_a" {} alice
      ⟨10, 0, 0, 8⟩ := by
  have hnone : search (addressRegex asciiTables) alice.chars = none := by decide +kernel
  refine (failure_parsed_iff syslogRuntime asciiTables ascii_asciiTables engine_syslogRuntime
    sampleHeader trivial .known alice ⟨10, 0, 0, 8⟩ samplePort "ten_a" (by decide +kernel) {}).mpr
    ⟨.inl rfl, ?_⟩
  rw [hnone]
  nofun

/-- An account that is not there is read as the account `invalid`. -/
theorem invalid_misread :
    ¬ ParsedRight syslogRuntime
      (sampleHeader.line (failureMessage .invalid alice ⟨10, 0, 0, 8⟩ samplePort)) "ten_a" {} alice
      ⟨10, 0, 0, 8⟩ := by
  rintro ⟨event, hrun, -, -, huser, -⟩
  have htenant : "ten_a".startsWith "ten_" = true := by decide +kernel
  obtain ⟨event', hrun', -, -, huser', -⟩ :=
    event_of_failure ascii_asciiTables engine_syslogRuntime (h := sampleHeader) trivial .invalid
      alice ⟨10, 0, 0, 8⟩ samplePort htenant {}
  obtain rfl := Except.ok.inj (hrun'.symm.trans hrun)
  rw [huser'] at huser
  exact absurd (String.ofList_injective (Option.some.inj huser)) (by decide)

end BlueTeam.Ingest.Syslog
