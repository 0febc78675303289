import Thingsee.Modem.RoundTrip
import Thingsee.Sockets.Answers
import Thingsee.Sockets.Link
import Thingsee.Support.Scanf

/-!
Owns the way of received data from the modem to the application: the answer to `+USORD`
or `+USORF` goes through the parser to `socket_recvfrom_handler`, from there through
`/dev/usrsock` into the buffers of `usrsock_recvfrom`.

The command is sent in `__ubmodem_recvfrom_socket`; how much it asks for is limited so
that the answer fits into the response stream and into the buffer.
-/

namespace Thingsee.Sockets

open Support List
open Modem (RespFormat RespStatus Value Parser)
open Usrsock (System Call EINPROGRESS)

variable {text : List UInt8} {a b c d : UInt8}

/-- `%u` of `sscanf`, with what follows the number. -/
def scanUnsigned (text : List UInt8) : Option (Nat × List UInt8) :=
  let text := text.dropWhile isSpace
  let digits := (text.take 127).takeWhile isDigit
  if digits = [] then none
  else some (strtoul 0 digits % 4294967296, text.drop digits.length)

/-- A character of the format of `sscanf`. -/
def scanChar (expected : UInt8) (text : List UInt8) : Option (List UInt8) :=
  match text.dropWhile isSpace with
  | [] => none
  | char :: rest => if expected = char then some rest else none

def HTONL (number : Nat) : Nat := leValue (leBytes 4 number).reverse

/-- `inet_addr`. Without four numbers in the text, variables without a value are
used. -/
def inetAddr (cp : List UInt8) : Option Nat := do
  let (a, rest) ← scanUnsigned cp
  let rest ← scanChar 46 rest
  let (b, rest) ← scanUnsigned rest
  let rest ← scanChar 46 rest
  let (c, rest) ← scanUnsigned rest
  let rest ← scanChar 46 rest
  let (d, _) ← scanUnsigned rest
  let result := (a * 256) % 4294967296
  let result := ((result ||| b) * 256) % 4294967296
  let result := ((result ||| c) * 256) % 4294967296
  pure (HTONL (result ||| d))

structure Octet (text : List UInt8) (number : UInt8) : Prop where
  filled : text ≠ []
  digits : text.all isDigit = true
  value : strtoul 0 text = number.toNat

def AddressText (text : List UInt8) (a b c d : UInt8) : Prop :=
  ∃ first second third fourth, Octet first a ∧ Octet second b ∧ Octet third c ∧
    Octet fourth d ∧
    text = first ++ 46 :: (second ++ 46 :: (third ++ 46 :: fourth))

/-! ## Addresses -/

theorem scanUnsigned_octet {number : UInt8} (octet : Octet text number) (rest : List UInt8)
    (short : text.length ≤ 127) (ends : ∀ char ∈ rest.head?, isDigit char = false) :
    scanUnsigned (text ++ rest) = some (number.toNat, rest) := by
  obtain ⟨first, others, starts⟩ := exists_cons_of_ne_nil octet.filled
  have allDigits : ∀ char ∈ text, isDigit char = true := all_eq_true.mp octet.digits
  have notSpace : isSpace first = false := by
    have digit : isDigit first = true := allDigits first (by simp [starts])
    have low : (48 : Nat) ≤ first.toNat := by
      have bounds : 48 ≤ first ∧ first ≤ 57 := by simpa [isDigit] using digit
      exact UInt8.le_iff_toNat_le.mp bounds.1
    have notBlank : first ≠ 32 := by
      rintro rfl
      exact absurd low (by decide)
    have notControl : ¬ first ≤ 13 := by
      intro small
      have small : first.toNat ≤ 13 := UInt8.le_iff_toNat_le.mp small
      omega
    simp [isSpace, notBlank, notControl]
  have whole : text ++ rest = first :: (others ++ rest) := by rw [starts]; rfl
  have taken : ((text ++ rest).take 127).takeWhile isDigit = text := by
    rw [take_append, take_of_length_le short, takeWhile_append_of_pos allDigits]
    have nothing : (rest.take (127 - text.length)).takeWhile isDigit = [] := by
      cases rest with
      | nil => simp
      | cons char rest =>
        have other : isDigit char = false := ends char (by simp)
        cases 127 - text.length with
        | zero => simp
        | succ count => simp [other]
    rw [nothing, append_nil]
  have wraps : number.toNat % 4294967296 = number.toNat :=
    Nat.mod_eq_of_lt (by have := number.toNat_lt; omega)
  simp only [scanUnsigned, dropWhile_isSpace whole notSpace, taken, octet.filled, ↓reduceIte,
    octet.value, wraps, drop_left]

theorem scanChar_head (expected : UInt8) (rest : List UInt8) (visible : isSpace expected = false) :
    scanChar expected (expected :: rest) = some rest := by
  simp [scanChar, visible]

theorem leBytes_HTONL (a b c d : UInt8) :
    leBytes 4 (HTONL (leValue [d, c, b, a])) = [a, b, c, d] := by
  have host : leBytes 4 (leValue [d, c, b, a]) = [d, c, b, a] := leBytes_leValue [d, c, b, a]
  rw [HTONL, host]
  exact leBytes_leValue [a, b, c, d]

/-- Four octets in dots are read as an address with these bytes. -/
theorem inetAddr_addressText (address : AddressText text a b c d) (short : text.length ≤ 15) :
    ∃ addr, inetAddr text = some addr ∧ leBytes 4 addr = [a, b, c, d] := by
  obtain ⟨first, second, third, fourth, isA, isB, isC, isD, rfl⟩ := address
  simp only [length_append, length_cons] at short
  have dot (rest : List UInt8) : ∀ char ∈ (46 :: rest).head?, isDigit char = false := by
    intro char isHead
    obtain rfl : 46 = char := by simpa using isHead
    decide
  have readA := scanUnsigned_octet isA (46 :: (second ++ 46 :: (third ++ 46 :: fourth)))
    (by omega) (dot _)
  have readB := scanUnsigned_octet isB (46 :: (third ++ 46 :: fourth)) (by omega) (dot _)
  have readC := scanUnsigned_octet isC (46 :: fourth) (by omega) (dot _)
  have readD := scanUnsigned_octet isD [] (by omega) (by simp)
  rw [append_nil] at readD
  have visible : isSpace 46 = false := by decide
  refine ⟨HTONL (leValue [d, c, b, a]), ?_, leBytes_HTONL a b c d⟩
  have number : (((((a.toNat * 256 % 4294967296 ||| b.toNat) * 256) % 4294967296 ||| c.toNat) *
      256) % 4294967296 ||| d.toNat) = leValue [d, c, b, a] := by
    have below (byte : UInt8) : byte.toNat < 256 := byte.toNat_lt
    have joined (high : Nat) (byte : UInt8) :
        high * 256 ||| byte.toNat = high * 256 + byte.toNat := by
      rw [Nat.mul_comm]
      exact (Nat.two_pow_add_eq_or_of_lt (i := 8) (below byte) high).symm
    have boundA := below a
    have boundB := below b
    have boundC := below c
    have two : a.toNat * 256 % 4294967296 ||| b.toNat = a.toNat * 256 + b.toNat := by
      rw [Nat.mod_eq_of_lt (by omega), joined]
    have three : (a.toNat * 256 + b.toNat) * 256 % 4294967296 ||| c.toNat =
        (a.toNat * 256 + b.toNat) * 256 + c.toNat := by
      rw [Nat.mod_eq_of_lt (by omega), joined]
    have four : ((a.toNat * 256 + b.toNat) * 256 + c.toNat) * 256 % 4294967296 ||| d.toNat =
        ((a.toNat * 256 + b.toNat) * 256 + c.toNat) * 256 + d.toNat := by
      rw [Nat.mod_eq_of_lt (by omega), joined]
    rw [two, three, four]
    simp only [leValue]
    omega
  simp only [inetAddr, readA, readB, readC, readD, scanChar_head 46 _ visible, Option.bind_eq_bind,
    Option.bind_some, number]
  rfl

theorem usord_fits :
    [RespFormat.int8, .datalen, .quotedDatabuf].length ≤ 31 := by decide

theorem usord_plainFormat :
    false = true → [RespFormat.int8, .datalen, .quotedDatabuf] = [.stringToEol] := nofun

theorem usord_datalenKnown :
    Modem.datalenFirst false [.int8, .datalen, .quotedDatabuf] = true := rfl

/-- `cmd_ATpUSORD`, with the name `+USORD`. -/
def cmdATpUSORD : Modem.Command where
  name := [43, 85, 83, 79, 82, 68]
  respFormat := [.int8, .datalen, .quotedDatabuf]
  timeoutDsec := 10 * 10
  notErrorcode := rfl
  respNumFits := usord_fits
  plainFormat := usord_plainFormat
  datalenKnown := usord_datalenKnown

/-- `cmd_ATpUSORF`, with the name `+USORF`. -/
def cmdATpUSORF : Modem.Command where
  name := [43, 85, 83, 79, 82, 70]
  respFormat := [.int8, .quotedString, .int32, .datalen, .quotedDatabuf]
  timeoutDsec := 10 * 10
  notErrorcode := rfl
  respNumFits := by decide
  plainFormat := by decide
  datalenKnown := rfl

/-- The definition of the command that reads from a socket. -/
def SockType.readCmd : SockType → Modem.Command
  | .stream => cmdATpUSORD
  | .dgram => cmdATpUSORF

/-- The command that reads from a socket, with its arguments. -/
def SockType.readCommand : SockType → Int → Nat → Command
  | .stream => .usord
  | .dgram => .usorf

/-- What the modem says about data it has received: for a datagram socket also the text of
the address and the port it comes from. -/
structure Datagram where
  text : List UInt8
  port : Nat
  data : List UInt8

/-- The values of an answer for the socket `modemSd`. -/
def Datagram.values (datagram : Datagram) (modemSd : Int) : SockType → List Value
  | .stream => [.integer modemSd, .integer datagram.data.length, .bytes datagram.data]
  | .dgram =>
    [.integer modemSd, .bytes datagram.text, .integer datagram.port,
      .integer datagram.data.length, .bytes datagram.data]

/-- The bytes of the address that data comes from: the peer of a connected socket, or the
address in the answer. -/
def Datagram.peer (datagram : Datagram) (sock : Socket) (a b c d : UInt8) : List UInt8 :=
  match sock.type with
  | .stream => sock.peeraddr.bytes
  | .dgram =>
    [2, 0, UInt8.ofNat (datagram.port / 256), UInt8.ofNat (datagram.port % 256), a, b, c, d]

/-- A well-formed answer to a command that asks for `length` bytes. -/
structure Datagram.WellFormed (datagram : Datagram) (modemSd : Int) (length : Nat)
    (a b c d : UInt8) : Prop where
  sd : toSigned 8 modemSd = modemSd
  address : AddressText datagram.text a b c d
  short : datagram.text.length ≤ 15
  port : datagram.port < 65536
  data : datagram.data.length ≤ length

theorem AddressText.quotable (address : AddressText text a b c d) :
    text.all (fun char => char != 34 && !Modem.isEndOfLine char) = true := by
  obtain ⟨first, second, third, fourth, isA, isB, isC, isD, rfl⟩ := address
  have ofDigit (char : UInt8) (digit : isDigit char = true) :
      (char != 34 && !Modem.isEndOfLine char) = true := by
    have bounds : 48 ≤ char ∧ char ≤ 57 := by simpa [isDigit] using digit
    have notQuote : char ≠ 34 := by rintro rfl; exact absurd bounds.1 (by decide)
    have notReturn : char ≠ 13 := by rintro rfl; exact absurd bounds.1 (by decide)
    have notFeed : char ≠ 10 := by rintro rfl; exact absurd bounds.1 (by decide)
    simp [Modem.isEndOfLine, notQuote, notReturn, notFeed]
  have octet {part : List UInt8} {number : UInt8} (isOctet : Octet part number) :
      part.all (fun char => char != 34 && !Modem.isEndOfLine char) = true :=
    all_eq_true.mpr fun char isIn =>
      ofDigit char (all_eq_true.mp isOctet.digits char isIn)
  have dot : ((46 : UInt8) != 34 && !Modem.isEndOfLine 46) = true := by decide
  simp only [all_append, all_cons, octet isA, octet isB, octet isC, octet isD, dot,
    Bool.and_self]

theorem Datagram.WellFormed.renderable {datagram : Datagram} {modemSd : Int} {length : Nat}
    (wellFormed : datagram.WellFormed modemSd length a b c d) (limit : length ≤ maxSocketRead)
    (type : SockType) :
    Modem.RenderableAll type.readCmd.respFormat 0 (datagram.values modemSd type) ∧
      (Modem.encodeParams type.readCmd.respFormat (datagram.values modemSd type)).length ≤
        Modem.maxResponseStreamLen := by
  have short := wellFormed.short
  have bound : datagram.data.length ≤ 1024 := Nat.le_trans wellFormed.data limit
  have fits : datagram.data.length < 65536 := by omega
  have isLength : Value.Renderable .datalen 0 (.integer datagram.data.length) :=
    ⟨⟨by omega, by omega⟩, trivial⟩
  have isData : Value.Renderable .quotedDatabuf datagram.data.length (.bytes datagram.data) :=
    ⟨fits, rfl⟩
  have sd : Value.Renderable .int8 0 (.integer modemSd) := ⟨wellFormed.sd, trivial⟩
  cases type with
  | stream =>
    refine ⟨⟨sd, isLength, isData, trivial⟩, ?_⟩
    simp [SockType.readCmd, cmdATpUSORD, Datagram.values, Modem.encodeParams, Modem.encodeParam,
      Modem.encodeString, RespFormat.width, Modem.maxResponseStreamLen]
    omega
  | dgram =>
    have port := wellFormed.port
    have text : Value.Renderable .quotedString 0 (.bytes datagram.text) :=
      ⟨show datagram.text.length < 65536 by omega, wellFormed.address.quotable⟩
    have isPort : Value.Renderable .int32 0 (.integer datagram.port) :=
      ⟨toSigned_of_range 31 (by omega) (by omega), trivial⟩
    refine ⟨⟨sd, text, isPort, isLength, isData, trivial⟩, ?_⟩
    simp [SockType.readCmd, cmdATpUSORF, Datagram.values, Modem.encodeParams, Modem.encodeParam,
      Modem.encodeString, RespFormat.width, Modem.maxResponseStreamLen]
    omega

theorem leBytes_swapped {port : Nat} (fits : port < 65536) :
    leBytes 2 ((port / 256 + port % 256 * 256 : Nat) : Int) =
      [UInt8.ofNat (port / 256), UInt8.ofNat (port % 256)] := by
  have low : (((port / 256 + port % 256 * 256 : Nat) : Int) % 256).toNat = port / 256 := by omega
  have high : (((port / 256 + port % 256 * 256 : Nat) : Int) / 256 % 256).toNat =
      port % 256 := by omega
  simp only [leBytes, low, high]

namespace Ubmodem

variable {inet : List UInt8 → Nat} {s : Nat} {modem : Ubmodem}

/-! ## The daemon -/

theorem recvfromSocket_asks {env : Env} (sent : env.commandSent = true)
    (isOpen : (modem.socket s).isClosed = false) (avail : 1 ≤ (modem.socket s).avail)
    (filled : 1 ≤ (modem.socket s).maxBuflen) :
    ∃ length, 1 ≤ length ∧
      length ≤ min (min (modem.socket s).avail (modem.socket s).maxBuflen) maxSocketRead ∧
      modem.recvfromSocket env s =
        { modem with
          outstanding :=
            some ((modem.socket s).type.readCommand (modem.socket s).modemSd length, s) } := by
  refine ⟨min (min (maxReadbufLen (modem.socket s).type) maxSocketRead)
    (min (modem.socket s).avail (modem.socket s).maxBuflen), ?_, by omega, ?_⟩
  · have room : 1 ≤ maxReadbufLen (modem.socket s).type := by
      cases (modem.socket s).type <;> decide
    have most : 1 ≤ maxSocketRead := by decide
    omega
  · unfold recvfromSocket
    rw [if_neg (by simp [isOpen])]
    cases type : (modem.socket s).type <;>
      simp [sendCmd, sent, SockType.readCommand]

/-- Where the data in an answer comes from, and the rest of the answer. -/
def readPeer (inet : List UInt8 → Nat) (sock : Socket) (rest : List UInt8) :
    Option (Address × List UInt8) :=
  match sock.type with
  | .dgram => readAddress inet rest
  | .stream => some (sock.peeraddr, rest)

theorem socketRecvfromHandler_read (env : Env) (isOpen : (modem.socket s).isClosed = false)
    {stream rest text : List UInt8}
    (sd : Modem.streamGetInt8 stream = some ((modem.socket s).modemSd, rest)) {addr : Address}
    {behind : List UInt8} (peer : readPeer inet (modem.socket s) rest = some (addr, behind))
    {later : List UInt8} (read : Modem.streamGetString behind = some (text, later)) :
    modem.socketRecvfromHandler env inet s .ok stream =
      (modem.write (.dataResponse (modem.socket s).req.xid text.length
        (.address addr (min sizeofAddress (modem.socket s).maxAddrlen)) text)).workDone s := by
  unfold socketRecvfromHandler
  rw [if_neg (by rw [isOpen]; exact Bool.false_ne_true), if_neg (by decide), if_neg (by decide), sd]
  dsimp only
  rw [if_neg (not_not_intro rfl)]
  unfold readPeer at peer
  cases type : (modem.socket s).type with
  | dgram =>
    rw [type] at peer
    dsimp only at peer ⊢
    rw [peer]
    dsimp only
    rw [read]
  | stream =>
    rw [type] at peer
    obtain ⟨rfl, rfl⟩ := Prod.mk.inj (Option.some.inj peer)
    dsimp only
    rw [read]

theorem socketRecvfromHandler_answer (env : Env) (modem : Ubmodem)
    (isOpen : (modem.socket s).isClosed = false) {datagram : Datagram} {length : Nat}
    {a b c d : UInt8} (wellFormed : datagram.WellFormed (modem.socket s).modemSd length a b c d)
    (limit : length ≤ maxSocketRead) (known : leBytes 4 (inet datagram.text) = [a, b, c, d]) :
    ∃ addr : Address, addr.bytes = datagram.peer (modem.socket s) a b c d ∧
      modem.socketRecvfromHandler env inet s .ok
          (Modem.encodeParams (modem.socket s).type.readCmd.respFormat
            (datagram.values (modem.socket s).modemSd (modem.socket s).type)) =
        (modem.write (.dataResponse (modem.socket s).req.xid datagram.data.length
          (.address addr (min sizeofAddress (modem.socket s).maxAddrlen))
          datagram.data)).workDone s := by
  have short := wellFormed.short
  have bound : datagram.data.length ≤ 1024 := Nat.le_trans wellFormed.data limit
  have sd (rest : List UInt8) :
      Modem.streamGetInt8 (leBytes 1 (modem.socket s).modemSd ++ rest) =
        some ((modem.socket s).modemSd, rest) :=
    Modem.streamGetInt_leBytes 1 _ rest wellFormed.sd
  have dataRead : Modem.streamGetString (Modem.encodeString datagram.data ++ []) =
      some (datagram.data, []) :=
    Modem.streamGetString_encodeString (by omega) []
  cases type : (modem.socket s).type with
  | stream =>
    refine ⟨(modem.socket s).peeraddr, by simp [Datagram.peer, type], ?_⟩
    have stream : Modem.encodeParams SockType.stream.readCmd.respFormat
        (datagram.values (modem.socket s).modemSd .stream) =
        leBytes 1 (modem.socket s).modemSd ++ (Modem.encodeString datagram.data ++ []) := rfl
    rw [stream]
    exact socketRecvfromHandler_read env isOpen (sd _) (by rw [readPeer, type]) dataRead
  | dgram =>
    have port := wellFormed.port
    have portRead (rest : List UInt8) : Modem.streamGetInt32 (leBytes 4 datagram.port ++ rest) =
        some ((datagram.port : Int), rest) :=
      Modem.streamGetInt_leBytes 4 _ rest (toSigned_of_range 31 (by omega) (by omega))
    have textRead (rest : List UInt8) :
        Modem.streamGetString (Modem.encodeString datagram.text ++ rest) =
          some (datagram.text, rest) :=
      Modem.streamGetString_encodeString (by omega) rest
    have stream : Modem.encodeParams SockType.dgram.readCmd.respFormat
        (datagram.values (modem.socket s).modemSd .dgram) =
        leBytes 1 (modem.socket s).modemSd ++ (Modem.encodeString datagram.text ++
          (leBytes 4 datagram.port ++ (Modem.encodeString datagram.data ++ []))) := rfl
    let addr : Address := ⟨AF_INET, ((datagram.port : Int) % 65536).toNat / 256 +
      ((datagram.port : Int) % 256).toNat * 256, inet datagram.text⟩
    refine ⟨addr, ?_, ?_⟩
    · have swapped : addr.port = datagram.port / 256 + datagram.port % 256 * 256 := by
        have whole : ((datagram.port : Int) % 65536).toNat = datagram.port := by omega
        have low : ((datagram.port : Int) % 256).toNat = datagram.port % 256 := by omega
        simp only [addr, whole, low]
      have network := leBytes_swapped port
      rw [← swapped] at network
      have family : leBytes 2 ((addr.family : Nat) : Int) = [2, 0] :=
        show leBytes 2 ((2 : Nat) : Int) = [2, 0] by decide
      have number : leBytes 4 ((addr.addr : Nat) : Int) = [a, b, c, d] := known
      simp [Address.bytes, family, network, number, Datagram.peer, type]
    · have peer : readPeer inet (modem.socket s) (Modem.encodeString datagram.text ++
          (leBytes 4 datagram.port ++ (Modem.encodeString datagram.data ++ []))) =
          some (addr, Modem.encodeString datagram.data ++ []) := by
        rw [readPeer, type]
        rw [readAddress, textRead]
        dsimp only
        rw [portRead]
      rw [stream]
      exact socketRecvfromHandler_read env isOpen (sd _) peer dataRead

theorem updateState_request (s : Nat) (modem : Ubmodem) :
    ((modem.updateState s).socket s).req = (modem.socket s).req ∧
      ((modem.updateState s).socket s).maxBuflen = (modem.socket s).maxBuflen ∧
      ((modem.updateState s).socket s).maxAddrlen = (modem.socket s).maxAddrlen := by
  obtain same | ⟨state, makeFirst, _, _, updated⟩ := modem.updateState_cases s
  · rw [same]
    exact ⟨rfl, rfl, rfl⟩
  · rw [updated]
    dsimp only
    split_ifs
    · unfold removeSocketTimer
      split <;> simp [modify, removeTimer]
    · simp [modify]

theorem recvfrom_accepted (inet : List UInt8 → Nat) (env : Env) (xid : Nat) {usockid : Int}
    (idle : modem.pollOffCount = 0) (found : modem.socketGetByUsockid usockid = some s)
    (isOpen : (modem.socket s).isClosed = false) (opened : 0 ≤ (modem.socket s).modemSd)
    (avail : (modem.socket s).avail ≠ 0) (maxBuflen maxAddrlen : Nat) :
    let accepted := modem.step inet (.request xid (.recvfrom usockid maxBuflen maxAddrlen), env)
    accepted.sent = .response xid true (-EINPROGRESS) :: modem.sent ∧
      (accepted.socket s).req = ⟨.recvfrom, xid⟩ ∧
      (accepted.socket s).maxBuflen = maxBuflen ∧ (accepted.socket s).maxAddrlen = maxAddrlen := by
  intro accepted
  let listed := modem.addXidToPollOffList xid
  have sameSocket : listed.socket = modem.socket := by
    unfold listed addXidToPollOffList
    split <;> rfl
  have sameSent : listed.sent = modem.sent := by
    unfold listed addXidToPollOffList
    split <;> rfl
  have found' : listed.socketGetByUsockid usockid = some s := by
    have sameList : listed.list = modem.list := by
      unfold listed addXidToPollOffList
      split <;> rfl
    rw [← found, socketGetByUsockid, socketGetByUsockid, sameList, sameSocket]
  let changed := listed.modify s (fun sock =>
    { sock with
      req := ⟨.recvfrom, xid⟩
      isWaitingRecv := true
      maxAddrlen := maxAddrlen
      maxBuflen := maxBuflen })
  have made : accepted =
      (changed.updateState s).usrsockSendResponse ⟨.recvfrom, xid⟩ true (-EINPROGRESS) := by
    have usable : ¬ ((modem.socket s).isClosed = true ∨ (modem.socket s).modemSd < 0) := by
      simp [isOpen]
      omega
    show (if modem.pollOffCount = 0 then listed.handleRecvfromRequest ⟨.recvfrom, xid⟩ usockid
      maxBuflen maxAddrlen else modem) = _
    rw [if_pos idle, handleRecvfromRequest, found']
    dsimp only
    rw [sameSocket, if_neg usable, if_neg avail]
  have answered (any : Ubmodem) :
      (any.usrsockSendResponse ⟨.recvfrom, xid⟩ true (-EINPROGRESS)).socket = any.socket ∧
      (any.usrsockSendResponse ⟨.recvfrom, xid⟩ true (-EINPROGRESS)).sent =
        .response xid true (-EINPROGRESS) :: any.sent := by
    unfold usrsockSendResponse removeXidFromPollOffList write
    split_ifs <;> exact ⟨rfl, rfl⟩
  obtain ⟨req, buflen, addrlen⟩ := updateState_request s changed
  rw [made, (answered _).1, (answered _).2, updateState_sent, req, buflen, addrlen]
  refine ⟨?_, ?_, ?_, ?_⟩
  · rw [← sameSent]
    rfl
  all_goals simp [changed, modify]

theorem workDone_sent (s : Nat) (modem : Ubmodem) : (modem.workDone s).sent = modem.sent :=
  updateState_sent s _

/-- The answer of the modem becomes a response with the datagram and its peer. -/
theorem recvfrom_answered {sock : Socket} (isSock : modem.socket s = sock)
    (isOpen : sock.isClosed = false) {length : Nat}
    (outstanding : modem.outstanding = some (sock.type.readCommand sock.modemSd length, s))
    {datagram : Datagram} {a b c d : UInt8}
    (wellFormed : datagram.WellFormed sock.modemSd length a b c d) (limit : length ≤ maxSocketRead)
    (known : leBytes 4 (inet datagram.text) = [a, b, c, d]) (env : Env) :
    ∃ peer : Address, peer.bytes = datagram.peer sock a b c d ∧
      (modem.step inet (.result .ok (Modem.encodeParams sock.type.readCmd.respFormat
          (datagram.values sock.modemSd sock.type)), env)).sent =
        .dataResponse sock.req.xid datagram.data.length
          (.address peer (min sizeofAddress sock.maxAddrlen)) datagram.data :: modem.sent := by
  subst isSock
  let waiting : Ubmodem := { modem with outstanding := none }
  have sameSocket : waiting.socket = modem.socket := rfl
  obtain ⟨peer, isPeer, answer⟩ := socketRecvfromHandler_answer env waiting
    isOpen wellFormed limit known
  have result : modem.step inet (.result .ok (Modem.encodeParams
        (modem.socket s).type.readCmd.respFormat
        (datagram.values (modem.socket s).modemSd (modem.socket s).type)), env) =
      waiting.socketRecvfromHandler env inet s .ok (Modem.encodeParams
        (modem.socket s).type.readCmd.respFormat
        (datagram.values (modem.socket s).modemSd (modem.socket s).type)) := by
    simp only [step, outstanding]
    cases (modem.socket s).type <;> rfl
  refine ⟨peer, isPeer, ?_⟩
  rw [result, ← sameSocket, answer, workDone_sent]
  rfl

end Ubmodem

theorem readRequest_recvfrom {n m : Nat} (few : n ≤ 255) {sys asked : System n m} {i : Fin n}
    {buf addr : List UInt8}
    (line : asked.dev.iov = some [Usrsock.Iovec.ofBytes (sys.recvfromRequest i buf addr)])
    (atStart : asked.dev.pos = 0) :
    readRequest asked =
      (asked.setDev { asked.dev with pos := 8 },
        some (Usrsock.getXid i, .recvfrom (toSigned 16 (sys.conns i).usockid)
          (Usrsock.limited buf.length) (Usrsock.limited addr.length))) := by
  have limited (len : Nat) : Usrsock.limited len < 256 ^ 2 := by
    unfold Usrsock.limited
    omega
  have small : Usrsock.getXid i < 256 := by
    unfold Usrsock.getXid
    omega
  let fields := leBytes 2 (sys.conns i).usockid ++
    (leBytes 2 (Usrsock.limited buf.length) ++ leBytes 2 (Usrsock.limited addr.length))
  have usockid : Usrsock.field fields 0 2 = leValue (leBytes 2 (sys.conns i).usockid) :=
    field_leBytes [] _ 0 2 _ rfl
  have buflen : Usrsock.field fields 2 2 = Usrsock.limited buf.length :=
    (field_leBytes (leBytes 2 (sys.conns i).usockid) _ 2 2 _ (by simp)).trans
      (leValue_leBytes_of_lt (limited _))
  have addrlen : Usrsock.field fields 4 2 = Usrsock.limited addr.length := by
    have place := field_leBytes (leBytes 2 (sys.conns i).usockid ++
      leBytes 2 (Usrsock.limited buf.length)) [] 4 2 (Usrsock.limited addr.length) (by simp)
    rw [append_nil, append_assoc] at place
    exact place.trans (leValue_leBytes_of_lt (limited _))
  have isRequest : requestOf fields 4 = some (.recvfrom (toSigned 16 (sys.conns i).usockid)
      (Usrsock.limited buf.length) (Usrsock.limited addr.length)) := by
    simp only [requestOf, signedField, usockid, buflen, addrlen]
    rw [toSigned_leValue_leBytes 2]
  have whole : fields.length = 6 := by simp [fields]
  have bytes : sys.recvfromRequest i buf addr = 4 :: UInt8.ofNat (Usrsock.getXid i) :: fields := by
    simp only [System.recvfromRequest, fields, append_assoc]
    rfl
  rw [bytes] at line
  exact readRequest_single small line atStart rfl whole isRequest

/-- When the daemon comes to the work of a request, the socket still has what the request
has left in it. -/
structure SameRequest (accepted working : Ubmodem) (s : Nat) : Prop where
  req : (working.socket s).req = (accepted.socket s).req
  maxBuflen : (working.socket s).maxBuflen = (accepted.socket s).maxBuflen
  maxAddrlen : (working.socket s).maxAddrlen = (accepted.socket s).maxAddrlen

/-- A parser that is about to read the answer to a command. -/
structure Expects {k : Nat} (parser : Parser k) (cmd : Modem.Command) : Prop where
  atStart : parser.state = .reset
  active : parser.registry.command.active = true
  cmd : parser.registry.command.cmd = cmd

theorem cut_address {peer addr : List UInt8} (whole : peer.length = sizeofAddress) :
    peer.take (min sizeofAddress (Usrsock.limited addr.length)) ++
        addr.drop (peer.take (min sizeofAddress (Usrsock.limited addr.length))).length =
      peer.take addr.length ++ addr.drop sizeofAddress := by
  have size : sizeofAddress = 8 := rfl
  have limited : Usrsock.limited addr.length = min addr.length 65535 := rfl
  rw [length_take, whole, limited, size]
  rw [size] at whole
  by_cases short : addr.length ≤ 8
  · have length : min 8 (min addr.length 65535) = addr.length := by omega
    rw [length, Nat.min_eq_left short, drop_length, drop_of_length_le short]
  · have length : min 8 (min addr.length 65535) = 8 := by omega
    rw [length, Nat.min_self, take_of_length_le (by omega),
      take_of_length_le (by omega)]

/-- A data response is written as its acknowledgment, the address and the data. -/
theorem writes_address (xid : Nat) (addr : Address) (length : Nat) (data : List UInt8) :
    ∃ rest, (Message.dataResponse xid data.length (.address addr length) data).writes =
        datareqAck xid data.length (addr.bytes.take length).length sizeofAddress :: rest ∧
      rest.flatten = addr.bytes.take length ++ data := by
  by_cases empty : (RespValue.address addr length).bytes = []
  · refine ⟨[data], ?_, ?_⟩
    · simp only [Message.writes, if_pos empty]
      rfl
    · have nothing : addr.bytes.take length = [] := empty
      simp [nothing]
  · refine ⟨[addr.bytes.take length, data], ?_, ?_⟩
    · simp only [Message.writes, if_neg empty]
      rfl
    · simp

/-- A call of `usrsock_recvfrom` with a buffer of any length from 1 on, from the request on
`/dev/usrsock` to its return. The daemon asks the modem for at least 1 byte, and for no
more than the modem has, the buffer holds and 1024. Whatever the modem answers, no put
into the response stream fails, the device accepts every write of the handler, and the
call returns the data and the address it comes from. -/
theorem received_data_unchanged {n m k : Nat} (few : n ≤ 255) {sys : System n m} {t : Fin m}
    {i : Fin n} (receivable : sys.Receivable t i) {buf addr : List UInt8} (filled : buf ≠ [])
    (nonblock : Bool) (garbage : List UInt8 → Nat) :
    let inet := fun text => (inetAddr text).getD (garbage text)
    let call := Call.recvfrom buf addr nonblock
    let asked := (sys.step (.start t i call)).step (.proceed t)
    let read := readRequest asked
    ∃ usockid maxBuflen maxAddrlen,
      read.2 = some (Usrsock.getXid i, .recvfrom usockid maxBuflen maxAddrlen) ∧
      ∀ (modem : Ubmodem) (s : Nat) (requestEnv : Env), modem.pollOffCount = 0 →
      modem.socketGetByUsockid usockid = some s → (modem.socket s).isClosed = false →
      0 ≤ (modem.socket s).modemSd → 1 ≤ (modem.socket s).avail →
      let accepted := modem.step inet
        (.request (Usrsock.getXid i) (.recvfrom usockid maxBuflen maxAddrlen), requestEnv)
      ∃ ack, accepted.sent = ack :: modem.sent ∧ read.1.AcceptsAll ack.writes ∧
      let waiting := (read.1.writeAll ack.writes).step (.proceed t)
      ∀ (working : Ubmodem) (workEnv : Env), SameRequest accepted working s →
      (working.socket s).isClosed = false → 1 ≤ (working.socket s).avail →
      workEnv.commandSent = true →
      let sock := working.socket s
      let reading := working.recvfromSocket workEnv s
      ∃ length, 1 ≤ length ∧ length ≤ min (min sock.avail buf.length) 1024 ∧
        reading.outstanding = some (sock.type.readCommand sock.modemSd length, s) ∧
      ∀ (parser : Parser k) (reaction : Modem.Reaction k), Expects parser sock.type.readCmd →
      ∀ (datagram : Datagram) (a b c d : UInt8),
      datagram.WellFormed sock.modemSd length a b c d →
      let answered := parser.parseBuffer reaction (Parser.responseText sock.type.readCmd.name
        (Modem.renderParams sock.type.readCmd.respFormat
          (datagram.values sock.modemSd sock.type)))
      answered.reader.overflow = parser.reader.overflow ∧
      ∃ answer stream,
        Modem.callsTo .command answered.registry.log =
          Modem.callsTo .command parser.registry.log ++ [answer] ∧
        answer.callback = parser.registry.command.callback ∧ answer.stream = some stream ∧
      ∀ resultEnv : Env,
      let handled := reading.step inet (.result answer.status stream, resultEnv)
      ∃ message, handled.sent = message :: reading.sent ∧ waiting.AcceptsAll message.writes ∧
        (waiting.writeAll message.writes).Received t i call sys.nextTag
          [(datagram.peer sock a b c d).take addr.length ++ addr.drop sizeofAddress,
            datagram.data ++ buf.drop datagram.data.length]
          datagram.data.length sizeofAddress := by
  intro inet call asked read
  have open' : (sys.step (.start t i call)).dev.ocount ≠ 0 := by
    rw [(receivable.start_waits buf addr nonblock).2.1]
    exact receivable.isOpen
  have line : (sys.step (.start t i call)).dev.sem ≠ 0 := by
    rw [(receivable.start_waits buf addr nonblock).2.1]
    exact receivable.line
  obtain ⟨waits, dev, -, -⟩ := (receivable.start_waits buf addr nonblock).1.put line open'
  have onLine : asked.dev.iov = some [Usrsock.Iovec.ofBytes (sys.recvfromRequest i buf addr)] := by
    rw [dev]
    rfl
  have isRead : read = (asked.setDev { asked.dev with pos := 8 },
      some (Usrsock.getXid i, .recvfrom (toSigned 16 (sys.conns i).usockid)
        (Usrsock.limited buf.length) (Usrsock.limited addr.length))) :=
    readRequest_recvfrom few onLine (by rw [dev]; rfl)
  refine ⟨_, _, _, by rw [isRead], ?_⟩
  intro modem s requestEnv idle found isOpen opened avail accepted
  obtain ⟨sent, req, buflen, addrlen⟩ := Ubmodem.recvfrom_accepted inet requestEnv
    (Usrsock.getXid i) idle found isOpen opened (by omega)
    (Usrsock.limited buf.length) (Usrsock.limited addr.length)
  refine ⟨_, sent, ?_⟩
  have waitsRead : read.1.Waits t i call .waitAck
      [Usrsock.Iovec.ofBytes (sys.recvfromRequest i buf addr)] sys.nextTag := by
    rw [isRead]
    exact waits.setPos 8
  have readDev : read.1.dev.iov = asked.dev.iov ∧ read.1.dev.ackXid = asked.dev.ackXid := by
    rw [isRead]
    exact ⟨rfl, rfl⟩
  have own : asked.dev.ackXid = Usrsock.getXid i := by
    rw [dev]
    rfl
  obtain ⟨ackWritten, waitsDone⟩ := waitsRead.acknowledged (by rw [readDev.1, onLine]; rfl)
    (readDev.2.trans own) (reqAck_header few i (-EINPROGRESS))
  refine ⟨⟨ackWritten, trivial⟩, ?_⟩
  -- The daemon does the work.
  intro waiting working workEnv same stillOpen stillAvail commandSent sock reading
  have sockBuflen : sock.maxBuflen = Usrsock.limited buf.length := same.maxBuflen.trans buflen
  have sockAddrlen : sock.maxAddrlen = Usrsock.limited addr.length :=
    same.maxAddrlen.trans addrlen
  have sockReq : sock.req = ⟨.recvfrom, Usrsock.getXid i⟩ := same.req.trans req
  have limited : Usrsock.limited buf.length = min buf.length 65535 := rfl
  have some : 1 ≤ buf.length := length_pos_iff.mpr filled
  obtain ⟨length, atLeast, atMost, asks⟩ := Ubmodem.recvfromSocket_asks commandSent stillOpen
    stillAvail (by rw [show (working.socket s).maxBuflen = _ from sockBuflen, limited]; omega)
  have most : maxSocketRead = 1024 := rfl
  rw [show (working.socket s).maxBuflen = _ from sockBuflen, limited, most] at atMost
  have atMost' : length ≤ min (min sock.avail buf.length) 1024 := by
    show length ≤ min (min (working.socket s).avail buf.length) 1024
    omega
  refine ⟨length, atLeast, atMost', by rw [show reading = _ from asks], ?_⟩
  -- The parser reads the answer.
  intro parser reaction expects datagram a b c d wellFormed answered
  have limit : length ≤ maxSocketRead := by omega
  obtain ⟨renderable, room⟩ := wellFormed.renderable limit sock.type
  have read' := Parser.parseBuffer_responseText reaction parser expects.atStart expects.active
    (by rw [expects.cmd]; cases sock.type <;> rfl) (by rw [expects.cmd]; cases sock.type <;> rfl)
    (by rw [expects.cmd]; cases sock.type <;> rfl)
    (by rw [expects.cmd]; cases sock.type <;> simp [SockType.readCmd, cmdATpUSORD, cmdATpUSORF])
    (by rw [expects.cmd]; cases sock.type <;> rfl)
    (by rw [expects.cmd]; cases sock.type <;> decide) (datagram.values sock.modemSd sock.type)
    (by rw [expects.cmd]; exact renderable) (by rw [expects.cmd]; exact room)
  rw [expects.cmd] at read'
  refine ⟨read'.2, _, _, read'.1, rfl, rfl, ?_⟩
  -- The handler passes it on.
  intro resultEnv handled
  have known : leBytes 4 (inet datagram.text) = [a, b, c, d] := by
    obtain ⟨number, found, bytes⟩ := inetAddr_addressText wellFormed.address wellFormed.short
    rw [show inet datagram.text = number by simp [inet, found], bytes]
  have readingSocket : reading.socket = working.socket := by rw [show reading = _ from asks]
  obtain ⟨peer, isPeer, isHandled⟩ := Ubmodem.recvfrom_answered
    (show reading.socket s = sock from congrFun readingSocket s) stillOpen
    (by rw [show reading = _ from asks]) wellFormed limit known resultEnv
  rw [sockReq, sockAddrlen] at isHandled
  refine ⟨_, isHandled, ?_⟩
  obtain ⟨rest, writes, whole⟩ := writes_address (Usrsock.getXid i) peer
    (min sizeofAddress (Usrsock.limited addr.length)) datagram.data
  have peerLength : peer.bytes.length = sizeofAddress := peer.bytes_length
  have valueFits : (peer.bytes.take (min sizeofAddress (Usrsock.limited addr.length))).length ≤
      addr.length := by
    have : Usrsock.limited addr.length = min addr.length 65535 := rfl
    rw [length_take]
    omega
  have data := wellFormed.data
  have size : sizeofAddress = 8 := rfl
  have dataFits : datagram.data.length ≤ buf.length := by omega
  obtain ⟨accepts, received⟩ := waitsDone.received valueFits dataFits
    (datareqAck_header few i (by omega) (by rw [length_take]; omega)
      (show sizeofAddress < 65536 by decide)) whole
  rw [cut_address peerLength] at received
  rw [← isPeer, writes]
  exact ⟨accepts, received⟩

/-- A datagram socket is open, and the daemon has announced data for it. -/
def dgramOpened : List (Usrsock.Action 1 1) :=
  [.openDev, .startSocket 0 2 1 0, .proceed 0, .proceed 0, .write (reqAck 1 false 1), .proceed 0,
    .proceed 0, .write [2, 2, 1, 0, 4, 0]]

/-- The daemon with one datagram socket, for which the modem has 5 bytes. -/
def dgramSocket : Ubmodem :=
  { Ubmodem.initial with
    list := [0]
    socket := fun _ =>
      { Socket.new 1 .dgram ⟨.socket, 1⟩ with state := .inactive, modemSd := 0, avail := 5 } }

theorem dgramOpened_receivable :
    ((System.initial 1 1 1).run dgramOpened).Receivable 0 0 where
  consistent :=
    foldl_invariant_of_keeps System.Consistent System.step_consistent dgramOpened
      (System.initial_consistent 1 1 1)
  idle := by decide
  listed := by decide
  ready := by decide
  connected := by decide
  avail := by decide
  notClosed := by decide
  callbacks := by decide
  others := by decide
  isOpen := by decide
  line := by decide
  noData := by decide

/-- One byte, a quote, is received into a buffer of 3 bytes, without an address. -/
theorem received_data_unchanged_quote :
    ∃ (waiting : System 1 1) (message : Message), waiting.AcceptsAll message.writes ∧
      (waiting.writeAll message.writes).Received 0 0 (.recvfrom [0, 0, 0] [] true) 1
        [[], [34, 0, 0]] 1 8 := by
  obtain ⟨usockid, maxBuflen, maxAddrlen, isRead, accepts⟩ :=
    @received_data_unchanged 1 1 0 (by decide) _ 0 0 dgramOpened_receivable [0, 0, 0] []
      (by decide) true (fun _ => 0)
  have request : (readRequest ((((System.initial 1 1 1).run dgramOpened).step
      (.start 0 0 (.recvfrom [0, 0, 0] [] true))).step (.proceed 0))).2 =
        some (1, .recvfrom 1 3 0) := by decide
  obtain ⟨rfl, rfl, rfl⟩ : usockid = 1 ∧ maxBuflen = 3 ∧ maxAddrlen = 0 := by
    have same := isRead.symm.trans request
    simp only [Option.some.injEq, Prod.mk.injEq, Request.recvfrom.injEq] at same
    exact same.2
  obtain ⟨ack, -, -, works⟩ := accepts dgramSocket 0 Env.usual rfl (by decide) rfl (by decide)
    (by decide)
  obtain ⟨length, atLeast, -, -, reads⟩ := works _ Env.usual ⟨rfl, rfl, rfl⟩ (by decide)
    (by decide) rfl
  have wellFormed : Datagram.WellFormed
    ⟨[49, 46, 50, 46, 51, 46, 52], 80, [34]⟩ 0 length 1 2 3 4 := by
    refine ⟨by decide, ⟨[49], [50], [51], [52], ?_, ?_, ?_, ?_, rfl⟩, by decide, by decide, atLeast⟩
    all_goals exact ⟨by decide, by decide, by decide⟩
  obtain ⟨-, answer, stream, -, -, -, passes⟩ := reads (Parser.waiting cmdATpUSORF)
    (Modem.quiet 0) ⟨rfl, rfl, rfl⟩ _ _ _ _ _ wellFormed
  obtain ⟨message, -, accepted, received⟩ := passes Env.usual
  exact ⟨_, message, accepted, received⟩

end Thingsee.Sockets
