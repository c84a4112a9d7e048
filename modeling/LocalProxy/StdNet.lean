import LocalProxy.Strings

/-! The addresses of `std::net` with their `Display` and `FromStr`: printing and
parsing of `Ipv4Addr` and `Ipv6Addr`, the latter with its run of zeroes left out. -/

namespace LocalProxy.StdNet
open Strings

structure Ipv4Addr where
  a : UInt8
  b : UInt8
  c : UInt8
  d : UInt8
  deriving DecidableEq, Repr

def Ipv4Addr.octets (addr : Ipv4Addr) : List UInt8 := [addr.a, addr.b, addr.c, addr.d]

structure Ipv6Addr where
  segments : List UInt16
  eight : segments.length = 8
  deriving DecidableEq, Repr

/-- `std::net::IpAddr`. -/
inductive IpAddr where
  | v4 (addr : Ipv4Addr)
  | v6 (addr : Ipv6Addr)
  deriving DecidableEq, Repr

/-- `std::net::SocketAddr`, less the flow and scope of IPv6 that nothing here reads. -/
structure SocketAddr where
  ip : IpAddr
  port : UInt16
  deriving DecidableEq, Repr

def Ipv6Addr.octets (addr : Ipv6Addr) : List UInt8 :=
  addr.segments.flatMap fun segment => [UInt8.ofNat (segment.toNat / 256), UInt8.ofNat segment.toNat]

def Ipv6Addr.toIpv4Mapped (addr : Ipv6Addr) : Option Ipv4Addr :=
  match addr.segments with
  | [0, 0, 0, 0, 0, 0xffff, ab, cd] =>
    some ⟨UInt8.ofNat (ab.toNat / 256), UInt8.ofNat ab.toNat,
      UInt8.ofNat (cd.toNat / 256), UInt8.ofNat cd.toNat⟩
  | _ => none

/-- `read_given_char`. -/
def readChar (expected : Char) : Text → Option Text
  | [] => none
  | c :: rest => if c = expected then some rest else none

/-- `read_separator`: nothing separates the first item from what is before it. -/
def readSeparator {α : Type} (separator : Char) (first : Bool) (inner : Text → Option (α × Text))
    (text : Text) : Option (α × Text) :=
  if first then inner text else (readChar separator text).bind inner

def readOctet (text : Text) : Option (Nat × Text) := readNumber 10 3 256 false text

def readIpv4Addr (text : Text) : Option (Ipv4Addr × Text) := do
  let (a, text) ← readSeparator '.' true readOctet text
  let (b, text) ← readSeparator '.' false readOctet text
  let (c, text) ← readSeparator '.' false readOctet text
  let (d, text) ← readSeparator '.' false readOctet text
  return (⟨UInt8.ofNat a, UInt8.ofNat b, UInt8.ofNat c, UInt8.ofNat d⟩, text)

def u16FromBeBytes (high low : UInt8) : UInt16 := UInt16.ofNat (high.toNat * 256 + low.toNat)

def readGroup (text : Text) : Option (Nat × Text) := readNumber 16 4 65536 true text

/-- `read_groups` with room for so many more groups. The flag tells whether the
groups end in an embedded IPv4 address. -/
def readGroups (first : Bool) : Nat → Text → List UInt16 × Bool × Text
  | 0, text => ([], false, text)
  | room + 1, text =>
    match if 0 < room then readSeparator ':' first readIpv4Addr text else none with
    | some (v4, rest) => ([u16FromBeBytes v4.a v4.b, u16FromBeBytes v4.c v4.d], true, rest)
    | none =>
      match readSeparator ':' first readGroup text with
      | some (group, rest) =>
        let (groups, ipv4, rest) := readGroups false room rest
        (UInt16.ofNat group :: groups, ipv4, rest)
      | none => ([], false, text)

theorem readGroups_length (first : Bool) (room : Nat) (text : Text) :
    (readGroups first room text).1.length ≤ room := by
  induction room generalizing first text with
  | zero => simp [readGroups]
  | succ room ih =>
    simp only [readGroups]
    split
    next v4 rest embedded =>
      have space : 0 < room := by
        by_contra full
        rw [if_neg full] at embedded
        contradiction
      simp only [List.length_cons, List.length_nil]
      omega
    next =>
      split
      next group rest _ =>
        have shorter := ih false rest
        simp only [List.length_cons]
        omega
      next => simp

/-- The groups read before `::` and after it, with the zeroes between them. -/
def Ipv6Addr.around (head tail : List UInt16) (fits : head.length + tail.length ≤ 8) : Ipv6Addr :=
  ⟨head ++ List.replicate (8 - tail.length - head.length) 0 ++ tail, by
    simp only [List.length_append, List.length_replicate]
    omega⟩

def readIpv6Addr (text : Text) : Option (Ipv6Addr × Text) :=
  let head := readGroups true 8 text
  if whole : head.1.length = 8 then some (⟨head.1, whole⟩, head.2.2)
  else if head.2.1 then none
  else
    match (readChar ':' head.2.2).bind (readChar ':') with
    | none => none
    | some rest =>
      let tail := readGroups true (8 - (head.1.length + 1)) rest
      some (.around head.1 tail.1 (by
        have front := readGroups_length true 8 text
        have back := readGroups_length true (8 - (head.1.length + 1)) rest
        simp only [head, tail] at *
        omega), tail.2.2)

/-- `IpAddr::from_str`: an IPv4 address with text behind it is not read again as IPv6. -/
def parseIpAddr (text : Text) : Option IpAddr :=
  let read := match readIpv4Addr text with
    | some (v4, rest) => some (IpAddr.v4 v4, rest)
    | none => (readIpv6Addr text).map fun (v6, rest) => (IpAddr.v6 v6, rest)
  match read with
  | some (ip, []) => some ip
  | _ => none

def Ipv4Addr.toText (addr : Ipv4Addr) : Text :=
  printUnsigned addr.a.toNat ++ '.' :: printUnsigned addr.b.toNat ++
    '.' :: printUnsigned addr.c.toNat ++ '.' :: printUnsigned addr.d.toNat

structure Span where
  start : Nat
  len : Nat
  deriving DecidableEq, Repr

/-- The loop that finds the longest run of zero segments, from segment `i` on. -/
def longestZeroes (i : Nat) (longest current : Span) : List UInt16 → Span
  | [] => longest
  | segment :: rest =>
    if segment = 0 then
      let current : Span := ⟨if current.len = 0 then i else current.start, current.len + 1⟩
      longestZeroes (i + 1) (if current.len > longest.len then current else longest) current rest
    else longestZeroes (i + 1) longest ⟨0, 0⟩ rest

def printHex (segment : UInt16) : Text := Nat.toDigits 16 segment.toNat

def fmtSubslice : List UInt16 → Text
  | [] => []
  | first :: tail => printHex first ++ tail.flatMap fun segment => ':' :: printHex segment

def Ipv6Addr.toText (addr : Ipv6Addr) : Text :=
  match addr.toIpv4Mapped with
  | some ipv4 => "::ffff:".toList ++ ipv4.toText
  | none =>
    let zeroes := longestZeroes 0 ⟨0, 0⟩ ⟨0, 0⟩ addr.segments
    if zeroes.len > 1 then
      fmtSubslice (addr.segments.take zeroes.start) ++ "::".toList ++
        fmtSubslice (addr.segments.drop (zeroes.start + zeroes.len))
    else fmtSubslice addr.segments


theorem spanDigits_suffix (radix : Nat) (text : Text) : (spanDigits radix text).2 <:+ text := by
  induction text with
  | nil => exact List.suffix_rfl
  | cons c rest ih =>
    simp only [spanDigits]
    split
    · exact ih.trans (List.suffix_cons c rest)
    · exact List.suffix_rfl

theorem readNumber_suffix {radix maxDigits limit n : Nat} {allowZeroPrefix : Bool}
    {text rest : Text}
    (read : readNumber radix maxDigits limit allowZeroPrefix text = some (n, rest)) :
    rest <:+ text := by
  simp only [readNumber] at read
  split_ifs at read
  cases read
  exact spanDigits_suffix radix text

theorem readOctet_print (octet : UInt8) {rest : Text} (ends : Unread 10 rest) :
    readOctet (printUnsigned octet.toNat ++ rest) = some (octet.toNat, rest) := by
  have below := octet.toNat_lt
  exact readNumber_print (by decide) (by decide) (by omega) (by omega) (by decide) ends

theorem unread_dot (rest : Text) : Unread 10 ('.' :: rest) := by
  intro c first
  cases first
  decide

theorem readIpv4Addr_print (addr : Ipv4Addr) {rest : Text} (ends : Unread 10 rest) :
    readIpv4Addr (addr.toText ++ rest) = some (addr, rest) := by
  have a := readOctet_print addr.a (unread_dot (printUnsigned addr.b.toNat ++
    '.' :: printUnsigned addr.c.toNat ++ '.' :: printUnsigned addr.d.toNat ++ rest))
  have b := readOctet_print addr.b (unread_dot (printUnsigned addr.c.toNat ++
    '.' :: printUnsigned addr.d.toNat ++ rest))
  have c := readOctet_print addr.c (unread_dot (printUnsigned addr.d.toNat ++ rest))
  have d := readOctet_print addr.d ends
  simp only [List.append_assoc, List.cons_append] at a b c
  simp [readIpv4Addr, Ipv4Addr.toText, readSeparator, readChar, a, b, c, d]

/-- No IPv4 address is read where no dot is. -/
theorem readIpv4Addr_dot {text : Text} (absent : '.' ∉ text) : readIpv4Addr text = none := by
  cases read : readOctet text with
  | none => simp [readIpv4Addr, readSeparator, read]
  | some octet =>
    have suffix := readNumber_suffix read
    cases left : octet.2 with
    | nil => simp [readIpv4Addr, readSeparator, read, left, readChar]
    | cons c rest =>
      have other : c ≠ '.' := by
        intro same
        apply absent
        apply suffix.subset
        simp [left, same]
      simp [readIpv4Addr, readSeparator, read, left, readChar, other]

theorem readChar_absent {c : Char} {text : Text} (absent : c ∉ text) : readChar c text = none := by
  cases text with
  | nil => rfl
  | cons first rest =>
    have other : first ≠ c := fun same => absent (by simp [same])
    simp [readChar, other]

/-- No IPv6 address is read where no colon is. -/
theorem readIpv6Addr_colon {text : Text} (absent : ':' ∉ text) : readIpv6Addr text = none := by
  cases embedded : readIpv4Addr text with
  | some read => simp [readIpv6Addr, readGroups, readSeparator, embedded]
  | none =>
    cases group : readGroup text with
    | none =>
      simp [readIpv6Addr, readGroups, readSeparator, embedded, group, readChar_absent absent]
    | some read =>
      have later : ':' ∉ read.2 := fun member =>
        absent ((readNumber_suffix group).subset member)
      simp [readIpv6Addr, readGroups, readSeparator, embedded, group, readChar_absent later]

theorem parseIpAddr_colon {text : Text} (absent : ':' ∉ text) (addr : Ipv6Addr) :
    parseIpAddr text ≠ some (.v6 addr) := by
  intro read
  unfold parseIpAddr at read
  cases four : readIpv4Addr text with
  | none => simp [four, readIpv6Addr_colon absent] at read
  | some halves =>
    obtain ⟨v4, rest⟩ := halves
    cases rest with
    | nil => simp [four] at read
    | cons c rest => simp [four] at read

theorem readGroup_print (segment : UInt16) {rest : Text} (ends : Unread 16 rest) :
    readGroup (printHex segment ++ rest) = some (segment.toNat, rest) := by
  have below := segment.toNat_lt
  exact readNumber_print (by decide) (by decide) (by omega) (by omega) (by decide) ends

theorem mem_toDigits {radix n : Nat} (least : 1 < radix) {c : Char}
    (member : c ∈ Nat.toDigits radix n) : ∃ digit < radix, c = Nat.digitChar digit := by
  obtain ⟨digits, numeral⟩ := exists_numeral least n
  rw [numeral.printed] at member
  obtain ⟨digit, present, same⟩ := List.mem_map.mp member
  exact ⟨digit, numeral.small digit present, same.symm⟩

theorem absent_printHex {c : Char} (segment : UInt16)
    (other : ∀ digit : Fin 16, Nat.digitChar digit ≠ c) : c ∉ printHex segment := by
  intro member
  obtain ⟨digit, small, same⟩ := mem_toDigits (by decide) member
  exact other ⟨digit, small⟩ same.symm

theorem absent_fmtSubslice {c : Char} (segments : List UInt16)
    (other : ∀ digit : Fin 16, Nat.digitChar digit ≠ c) (colon : c ≠ ':') :
    c ∉ fmtSubslice segments := by
  cases segments with
  | nil => simp [fmtSubslice]
  | cons first tail =>
    intro member
    rcases List.mem_append.mp member with front | back
    · exact absent_printHex first other front
    · obtain ⟨segment, _, inside⟩ := List.mem_flatMap.mp back
      rcases List.mem_cons.mp inside with same | inside
      · exact colon same
      · exact absent_printHex segment other inside

/-- Where the text ends or two colons follow, no further group is read. -/
def Stop (rest : Text) : Prop := rest = [] ∨ ∃ more, rest = ':' :: ':' :: more

theorem Stop.unread {rest : Text} (stop : Stop rest) : Unread 16 rest := by
  rcases stop with rfl | ⟨more, rfl⟩
  · simp [Unread]
  · intro c first
    cases first
    decide

theorem readGroup_colon (rest : Text) : readGroup (':' :: rest) = none := by
  have other : toDigit 16 ':' = none := by decide
  simp [readGroup, readNumber, spanDigits, other]

theorem Stop.readGroup {rest : Text} (stop : Stop rest) (first : Bool) :
    readSeparator ':' first readGroup rest = none := by
  rcases stop with rfl | ⟨more, rfl⟩
  · cases first
    · rfl
    · rfl
  · cases first
    · exact readGroup_colon more
    · exact readGroup_colon (':' :: more)

/-- The groups as they stand behind those already read. -/
def fmtGroups (first : Bool) (segments : List UInt16) : Text :=
  if first then fmtSubslice segments else segments.flatMap fun segment => ':' :: printHex segment

theorem fmtGroups_cons (first : Bool) (segment : UInt16) (segments : List UInt16) :
    fmtGroups first (segment :: segments) =
      (if first then [] else [':']) ++ printHex segment ++ fmtGroups false segments := by
  cases first <;> simp [fmtGroups, fmtSubslice]

theorem fmtGroups_unread (segments : List UInt16) {rest : Text} (stop : Stop rest) :
    Unread 16 (fmtGroups false segments ++ rest) := by
  cases segments with
  | nil => simpa [fmtGroups] using stop.unread
  | cons segment segments =>
    intro c opening
    rw [fmtGroups_cons] at opening
    simp only [Bool.false_eq_true, if_false, List.cons_append, List.nil_append,
      List.head?_cons, Option.mem_some_iff] at opening
    rw [← opening]
    decide

theorem readSeparator_dot {text : Text} (first : Bool) (absent : '.' ∉ text) :
    readSeparator ':' first readIpv4Addr text = none := by
  cases first with
  | true => exact readIpv4Addr_dot absent
  | false =>
    cases text with
    | nil => rfl
    | cons c rest =>
      have later : '.' ∉ rest := fun member => absent (List.mem_cons_of_mem c member)
      by_cases colon : c = ':'
      · simp [readSeparator, readChar, colon, readIpv4Addr_dot later]
      · simp [readSeparator, readChar, colon]

theorem readGroups_print (first : Bool) (segments : List UInt16) {room : Nat} {rest : Text}
    (fits : segments.length ≤ room) (stop : Stop rest)
    (absent : '.' ∉ fmtGroups first segments ++ rest) :
    readGroups first room (fmtGroups first segments ++ rest) = (segments, false, rest) := by
  induction segments generalizing first room with
  | nil =>
    cases room with
    | zero => cases first <;> simp [readGroups, fmtGroups, fmtSubslice]
    | succ room =>
      have nothing : fmtGroups first [] = [] := by cases first <;> rfl
      rw [nothing, List.nil_append] at absent ⊢
      simp [readGroups, readSeparator_dot first absent, stop.readGroup first]
  | cons segment segments ih =>
    cases room with
    | zero => simp at fits
    | succ room =>
      have plain := readSeparator_dot first absent
      have group : readSeparator ':' first readGroup (fmtGroups first (segment :: segments) ++ rest) =
          some (segment.toNat, fmtGroups false segments ++ rest) := by
        rw [fmtGroups_cons]
        cases first with
        | true => simpa [readSeparator] using readGroup_print segment (fmtGroups_unread segments stop)
        | false =>
          simpa [readSeparator, readChar] using
            readGroup_print segment (fmtGroups_unread segments stop)
      have later : '.' ∉ fmtGroups false segments ++ rest := by
        rw [fmtGroups_cons] at absent
        intro member
        apply absent
        simp only [List.append_assoc]
        exact List.mem_append_right _ (List.mem_append_right _ member)
      have others := ih false (Nat.le_of_succ_le_succ fits) later
      simp [readGroups, plain, group, others]


/-- The segments of the span are zero and lie before segment `i`. -/
structure Span.Zero (segments : List UInt16) (i : Nat) (span : Span) : Prop where
  zero : ∀ j, span.start ≤ j → j < span.start + span.len → segments[j]? = some 0
  before : span.start + span.len ≤ i

theorem longestZeroes_zero {segments rest : List UInt16} {i : Nat} {longest current : Span}
    (suffix : segments.drop i = rest) (best : longest.Zero segments i)
    (running : current.Zero segments i) (adjacent : current.len = 0 ∨ current.start + current.len = i)
    (inside : i ≤ segments.length) :
    (longestZeroes i longest current rest).Zero segments segments.length := by
  induction rest generalizing i longest current with
  | nil => exact ⟨best.zero, Nat.le_trans best.before inside⟩
  | cons segment rest ih =>
    have present : segments[i]? = some segment := by
      calc segments[i]? = (segments.drop i)[0]? := by simp
        _ = some segment := by simp [suffix]
    have shorter : i < segments.length := (List.getElem?_eq_some_iff.mp present).1
    have next : segments.drop (i + 1) = rest := by
      calc segments.drop (i + 1) = (segments.drop i).drop 1 := by simp
        _ = rest := by simp [suffix]
    have later : longest.Zero segments (i + 1) := ⟨best.zero, by have := best.before; omega⟩
    simp only [longestZeroes]
    by_cases zero : segment = 0
    · rw [if_pos zero]
      have joined : (if current.len = 0 then i else current.start) + current.len = i := by
        split_ifs with fresh
        · omega
        · omega
      have longer : Span.Zero segments (i + 1)
          ⟨if current.len = 0 then i else current.start, current.len + 1⟩ := by
        constructor
        · intro j low high
          by_cases last : j = i
          · rw [last, present, zero]
          · by_cases fresh : current.len = 0
            · simp only [fresh, if_true] at low high
              omega
            · simp only [fresh, if_false] at low high
              exact running.zero j low (by omega)
        · simp only
          omega
      generalize (if current.len = 0 then i else current.start) = start at joined longer
      have result : Span.Zero segments (i + 1)
          (if current.len + 1 > longest.len then ⟨start, current.len + 1⟩ else longest) := by
        by_cases more : current.len + 1 > longest.len
        · rw [if_pos more]
          exact longer
        · rw [if_neg more]
          exact later
      exact ih next result longer (Or.inr (by simp only; omega)) shorter
    · rw [if_neg zero]
      have empty : Span.Zero segments (i + 1) ⟨0, 0⟩ :=
        ⟨fun j _ high => by simp at high, by simp⟩
      exact ih next later empty (Or.inl rfl) shorter

theorem Span.Zero.split {segments : List UInt16} {span : Span}
    (run : span.Zero segments segments.length) :
    segments = segments.take span.start ++ List.replicate span.len 0 ++
      segments.drop (span.start + span.len) := by
  have fits := run.before
  have front : (segments.take span.start).length = span.start := by
    rw [List.length_take]
    omega
  apply List.ext_getElem?
  intro j
  by_cases low : j < span.start
  · rw [List.append_assoc, List.getElem?_append_left (by omega), List.getElem?_take_of_lt low]
  · rw [List.append_assoc, List.getElem?_append_right (by omega), front]
    by_cases middle : j < span.start + span.len
    · rw [List.getElem?_append_left (by rw [List.length_replicate]; omega),
        List.getElem?_replicate_of_lt (by omega), run.zero j (by omega) middle]
    · rw [List.getElem?_append_right (by rw [List.length_replicate]; omega), List.length_replicate,
        List.getElem?_drop]
      congr 1
      omega

theorem readIpv6Addr_whole (addr : Ipv6Addr) :
    readIpv6Addr (fmtSubslice addr.segments) = some (addr, []) := by
  have read := readGroups_print true addr.segments (Nat.le_of_eq addr.eight) (Or.inl rfl)
    (by simpa [fmtGroups] using absent_fmtSubslice addr.segments (by decide) (by decide))
  simp only [fmtGroups, if_true, List.append_nil] at read
  simp [readIpv6Addr, read, addr.eight]

theorem readIpv6Addr_around {head tail : List UInt16} (short : head.length + tail.length < 8) :
    readIpv6Addr (fmtSubslice head ++ "::".toList ++ fmtSubslice tail) =
      some (.around head tail (Nat.le_of_lt short), []) := by
  have plain : '.' ∉ fmtSubslice head ++ ':' :: ':' :: fmtSubslice tail := by
    have front := absent_fmtSubslice head (c := '.') (by decide) (by decide)
    have back := absent_fmtSubslice tail (c := '.') (by decide) (by decide)
    simp [front, back]
  have headFits : head.length ≤ 8 := by omega
  have tailFits : tail.length ≤ 8 - (head.length + 1) := by omega
  have front := readGroups_print true head headFits (Or.inr ⟨fmtSubslice tail, rfl⟩)
    (by simpa [fmtGroups] using plain)
  have back := readGroups_print true tail tailFits (Or.inl rfl)
    (by simpa [fmtGroups] using absent_fmtSubslice tail (c := '.') (by decide) (by decide))
  simp only [fmtGroups, if_true, List.append_nil] at front back
  have text : fmtSubslice head ++ "::".toList ++ fmtSubslice tail =
      fmtSubslice head ++ ':' :: ':' :: fmtSubslice tail := by simp
  have partly : ¬ head.length = 8 := by omega
  have room : 8 - (head.length + 1) = 7 - head.length := by omega
  rw [room] at back
  rw [text]
  simp [readIpv6Addr, front, back, partly, readChar]

theorem parseIpAddr_ipv4 (addr : Ipv4Addr) : parseIpAddr addr.toText = some (.v4 addr) := by
  have ends : Unread 10 [] := by simp [Unread]
  have read := readIpv4Addr_print addr ends
  rw [List.append_nil] at read
  simp [parseIpAddr, read]

theorem readIpv6Addr_print (addr : Ipv6Addr) (plain : addr.toIpv4Mapped = none) :
    readIpv6Addr addr.toText = some (addr, []) := by
  simp only [Ipv6Addr.toText, plain]
  by_cases long : (longestZeroes 0 ⟨0, 0⟩ ⟨0, 0⟩ addr.segments).len > 1
  · have start : Span.Zero addr.segments 0 ⟨0, 0⟩ := ⟨fun j _ high => by simp at high, by simp⟩
    have run := longestZeroes_zero (List.drop_zero) start start (Or.inl rfl) (Nat.zero_le _)
    rw [if_pos long]
    generalize longestZeroes 0 ⟨0, 0⟩ ⟨0, 0⟩ addr.segments = zeroes at long run
    have before := run.before
    rw [addr.eight] at before
    have front : (addr.segments.take zeroes.start).length = zeroes.start := by
      rw [List.length_take, addr.eight]
      omega
    have back : (addr.segments.drop (zeroes.start + zeroes.len)).length =
        8 - (zeroes.start + zeroes.len) := by
      rw [List.length_drop, addr.eight]
    have short : (addr.segments.take zeroes.start).length +
        (addr.segments.drop (zeroes.start + zeroes.len)).length < 8 := by omega
    rw [readIpv6Addr_around short]
    congr 2
    have gap : 8 - (8 - (zeroes.start + zeroes.len)) - zeroes.start = zeroes.len := by omega
    cases addr with
    | mk segments eight =>
      simp only [Ipv6Addr.around, Ipv6Addr.mk.injEq] at *
      rw [front, back, gap]
      exact run.split.symm
  · rw [if_neg long]
    exact readIpv6Addr_whole addr

theorem absent_ipv6 (addr : Ipv6Addr) (plain : addr.toIpv4Mapped = none) {c : Char}
    (other : ∀ digit : Fin 16, Nat.digitChar digit ≠ c) (colon : c ≠ ':') :
    c ∉ addr.toText := by
  simp only [Ipv6Addr.toText, plain]
  split
  · have front := absent_fmtSubslice (addr.segments.take
      (longestZeroes 0 ⟨0, 0⟩ ⟨0, 0⟩ addr.segments).start) other colon
    have back := absent_fmtSubslice (addr.segments.drop
      ((longestZeroes 0 ⟨0, 0⟩ ⟨0, 0⟩ addr.segments).start +
        (longestZeroes 0 ⟨0, 0⟩ ⟨0, 0⟩ addr.segments).len)) other colon
    simp [front, back, colon]
  · exact absent_fmtSubslice addr.segments other colon

theorem parseIpAddr_ipv6 (addr : Ipv6Addr) (plain : addr.toIpv4Mapped = none) :
    parseIpAddr addr.toText = some (.v6 addr) := by
  have dotless := readIpv4Addr_dot (absent_ipv6 addr plain (by decide) (by decide))
  simp [parseIpAddr, dotless, readIpv6Addr_print addr plain]

end LocalProxy.StdNet
