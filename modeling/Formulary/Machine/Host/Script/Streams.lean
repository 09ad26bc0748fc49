import Formulary.Machine.Host.Script.Course
import Formulary.Text.Octets

/-!
# Scripts: reading and writing

What a process does with its descriptors. Reading from a stream waits until there is something to
read, writing to one until there is room; who writes to a stream that nobody reads is told so by a
signal.
-/

namespace Formulary.Host.Script.Run

/-- How long it takes until somebody who waits takes notice, in microseconds. -/
def noticeTime : Nat := 30

def endpoint? (fd : Nat) : Run (Option Endpoint) := own fun l => l.endpoints.lookup fd

def rouse : Run Unit := modify fun s => s.rouse noticeTime

/-! ### Writing -/

/-- Nobody reads what is written to a stream. -/
def writeToNobody : Run Fault := do
  let l ← own id
  if l.effectOf .brokenPipe = .ends then throw (.killed .brokenPipe)
  if (l.trapFor? .brokenPipe).isSome then
    modify fun s => { s with signals := s.signals ++ [(l.pid, .brokenPipe)] }
  return .brokenPipe

def behind (bytes : ByteArray) (count : Nat) : ByteArray := bytes.extract count bytes.size

/-- Writes to a stream, as often as it takes. -/
def writePipe (pipe : Nat) : (fuel : Nat) → ByteArray → Run (Except Fault Unit)
  | 0, _ => return .error .brokenPipe
  | fuel + 1, bytes => do
    if !(← get).isHeld (.readEnd pipe) then return .error (← writeToNobody)
    let waiting := ((← get).pipes[pipe]?.map Pipe.waiting).getD 0
    let count := min bytes.size (Pipe.capacity - waiting)
    let now := bytes.extract 0 count
    modify fun s => { s with pipes := s.pipes.modify pipe fun p =>
      { p with bytes := p.bytes.append now } }
    rouse
    if count = bytes.size then return .ok ()
    waitFor (.writable pipe)
    writePipe pipe fuel (behind bytes count)

/-- The place and the contents of an open file, if it has a place. -/
def fileOf? (s : State) (o : OpenFile) : Option (Location × File) :=
  match s.files.get? o.place with
  | some (.file f) => if f.serial = o.serial then some (o.place, f) else s.files.placeOf? o.serial
  | _ => s.files.placeOf? o.serial

def bodyOf (o : OpenFile) : Run ByteArray := do
  let s ← get
  let known := s.bodies.lookup o.serial
  match fileOf? s o with
  | some (_, f) =>
    match known with
    | some b => if b.changed = f.changed && !b.alone then return b.bytes
    | none => pure ()
    let bytes := ByteArray.mk f.data.toArray
    let others := s.bodies.filter fun b => b.1 ≠ o.serial
    set { s with bodies := (o.serial, ⟨bytes, f.changed, false⟩) :: others }
    return bytes
  | none => return (known.map Body.bytes).getD .empty

/-- Bytes with others written over them from an offset on. -/
def overwritten (data : Bytes) (offset : Nat) (bytes : Bytes) : Bytes :=
  let size := data.length
  if size ≤ offset then data ++ (List.replicate (offset - size) 0 ++ bytes)
  else data.take offset ++ bytes ++ data.drop (offset + bytes.length)

def writeFile (index : Nat) (bytes : ByteArray) : Run (Except Fault Unit) := do
  let s ← get
  match s.opened[index]? with
  | none => return .error .badDescriptor
  | some o =>
    if !o.writes then return .error .badDescriptor
    let setOffset (offset : Nat) : Run Unit := modify fun s => { s with
      opened := s.opened.modify index fun o => { o with offset := offset + bytes.size } }
    match fileOf? s o with
    | some (place, f) =>
      let offset := if o.appends then f.data.length else o.offset
      let data := overwritten f.data offset bytes.toList
      charge (offset / 1024 - 64)
      modify fun s => { s with files := s.files.change place { f with data } }
      setOffset offset
    | none =>
      let old := ((s.bodies.lookup o.serial).map Body.bytes).getD .empty
      let offset := if o.appends then old.size else o.offset
      let data := ByteArray.mk (overwritten old.toList offset bytes.toList).toArray
      let others := s.bodies.filter fun b => b.1 ≠ o.serial
      modify fun s => { s with bodies := (o.serial, ⟨data, 0, true⟩) :: others }
      setOffset offset
    return .ok ()

def writeTo (e : Endpoint) (bytes : ByteArray) : Run (Except Fault Unit) := do
  if bytes.isEmpty then return .ok ()
  match e with
  | .captured i =>
    charge (bytes.size / 4)
    modify fun s => { s with captured := s.captured.modify i fun b => b.append bytes }
    return .ok ()
  | .writeEnd pipe | .bothEnds pipe => writePipe pipe mostRepeats bytes
  | .file index => writeFile index bytes
  | .sink | .zeros => return .ok ()
  | .full => return .error .noSpace
  | .readEnd _ | .folder _ => return .error .badDescriptor

/-- Writes to what a descriptor is connected to. -/
def write (fd : Nat) (bytes : ByteArray) : Run (Except Fault Unit) := do
  match ← endpoint? fd with
  | some e => writeTo e bytes
  | none => return .error .badDescriptor

def blockSize : Nat := 4096

def flush : Run Unit := do
  let bytes ← own Local.pending
  if bytes.isEmpty then return ()
  modifyOwn fun l => { l with pending := .empty }
  match ← write 1 bytes with
  | .ok _ => return ()
  | .error e => modifyOwn fun l => { l with unwritten := l.unwritten.or (some e) }

def put (text : String) : Run Unit := do
  modifyOwn fun l => { l with pending := Text.pushOctets l.pending text }
  if ← own fun l => l.immediate || blockSize ≤ l.pending.size then flush

def putBytes (bytes : ByteArray) : Run Unit := do
  modifyOwn fun l => { l with pending := l.pending.append bytes }
  if ← own fun l => l.immediate || blockSize ≤ l.pending.size then flush

def complain (text : String) : Run Unit := do let _ ← write 2 (Text.pushOctets .empty text)

/-! ### Reading -/

def characters (bytes : ByteArray) : List Char := bytes.toList.map fun b => Char.ofNat b.toNat

/-- The index behind the next byte of a kind, within so many bytes. -/
def indexBehind (stop : UInt8) (bytes : ByteArray) : (count : Nat) → Nat → Nat
  | 0, i => i
  | count + 1, i =>
    match bytes[i]? with
    | some b => if b = stop then i + 1 else indexBehind stop bytes count (i + 1)
    | none => i

/-- At most so many bytes from an index on; if there is a byte to stop at, they end with it. -/
def portion (bytes : ByteArray) (start count : Nat) (stop : Option UInt8) : ByteArray :=
  match stop with
  | some b => bytes.extract start (indexBehind b bytes count start)
  | none => bytes.extract start (min bytes.size (start + count))

/-- Reads from a stream what it has, at most so many bytes; nothing at its end. A process that waits
is called off by a signal it cares for, if it wants to be. -/
def readPipe (pipe count : Nat) (stop : Option UInt8) (attentive : Bool) :
    (fuel : Nat) → Run (Except Fault ByteArray)
  | 0 => return .ok .empty
  | fuel + 1 => do
    let s ← get
    match s.pipes[pipe]? with
    | none => return .ok .empty
    | some p =>
      if 0 < p.waiting then
        let got := portion p.bytes p.position count stop
        modify fun s => { s with pipes := s.pipes.modify pipe fun p =>
          let position := p.position + got.size
          if position = p.bytes.size then { p with bytes := .empty, position := 0 }
          else if Pipe.capacity ≤ position then
            { p with bytes := behind p.bytes position, position := 0 }
          else { p with position } }
        rouse
        return .ok got
      else if !s.isHeld (.writeEnd pipe) then return .ok .empty
      else if attentive then
        waitFor (.either (.readable pipe) .signal)
        let s ← get
        let called := s.signals.any fun x => x.1 = s.own.pid
        if called then return .ok .empty
        readPipe pipe count stop attentive fuel
      else
        waitFor (.readable pipe)
        readPipe pipe count stop attentive fuel

def readSize : Nat := 65536

def zeroBlock : ByteArray := ⟨Array.replicate readSize 0⟩

def zeros (count : Nat) : ByteArray :=
  if count ≤ readSize then zeroBlock.extract 0 count else ⟨Array.replicate count 0⟩

/-- Reads from an endpoint at most so many bytes; nothing at its end. -/
def readFrom (e : Endpoint) (count : Nat) (stop : Option UInt8) (attentive : Bool) :
    Run (Except Fault ByteArray) := do
  match e with
  | .readEnd pipe | .bothEnds pipe => readPipe pipe count stop attentive mostRepeats
  | .file index =>
    match (← get).opened[index]? with
    | none => return .error .badDescriptor
    | some o =>
      if !o.reads then return .error .badDescriptor
      let got := portion (← bodyOf o) o.offset count stop
      modify fun s => { s with
        opened := s.opened.modify index fun o => { o with offset := o.offset + got.size } }
      return .ok got
  | .sink => return .ok .empty
  | .zeros | .full =>
    charge (count / 4096)
    return .ok (zeros (if stop.isSome then min count 1 else count))
  | .folder _ => return .error .isDirectory
  | .captured _ | .writeEnd _ => return .error .badDescriptor

/-- Reads from what a descriptor is connected to, at most so many bytes; nothing at its end. -/
def read (fd count : Nat) : Run (Except Fault ByteArray) := do
  match ← endpoint? fd with
  | some e => readFrom e count none false
  | none => return .error .badDescriptor

def readAll (fd : Nat) : Run (Except Fault ByteArray) := go mostRepeats .empty
where
  go : Nat → ByteArray → Run (Except Fault ByteArray)
    | 0, all => return .ok all
    | fuel + 1, all => do
      spend
      match ← read fd readSize with
      | .error e => return .error e
      | .ok bytes => if bytes.isEmpty then return .ok all else go fuel (all.append bytes)

/-- The next line of what a descriptor reads from, no byte more, and whether it was closed by a line
end. -/
def readLine (fd : Nat) : Run (Except Fault (List Char × Bool)) := go mostRepeats []
where
  go : Nat → List (List Char) → Run (Except Fault (List Char × Bool))
    | 0, seen => return .ok (seen.reverse.flatten, false)
    | fuel + 1, seen => do
      match ← endpoint? fd with
      | none => return .error .badDescriptor
      | some e =>
        match ← readFrom e readSize (some 10) true with
        | .error e => return .error e
        | .ok bytes =>
          if bytes.isEmpty then return .ok (seen.reverse.flatten, false)
          let text := characters bytes
          if text.getLast? = some '\n' then
            return .ok ((text.dropLast :: seen).reverse.flatten, true)
          else go fuel (text :: seen)

/-! ### Opening -/

/-- How a file is opened. -/
inductive Opening where
  | reading
  /-- What it holds is removed. -/
  | emptying
  /-- It is written at its end. -/
  | appending
  /-- It is written from its start on, and may be read. -/
  | changing
  deriving DecidableEq

def newPipe : Run Nat := modifyGet fun s => (s.pipes.size, { s with pipes := s.pipes.push {} })

/-- A new stream that holds a text, to which nobody writes. -/
def newText (text : String) : Run Endpoint := do
  let pipe ← newPipe
  modify fun s => { s with pipes := s.pipes.modify pipe fun p =>
    { p with bytes := Text.pushOctets p.bytes text } }
  return .readEnd pipe

def channel (serial : Nat) : Run Nat := do
  match (← get).channels.lookup serial with
  | some pipe => return pipe
  | none =>
    let pipe ← newPipe
    modify fun s => { s with channels := (serial, pipe) :: s.channels }
    return pipe

/-- The ends of a stream one gets who opens it. -/
def endOf (pipe : Nat) : Opening → Endpoint
  | .reading => .readEnd pipe
  | .emptying | .appending => .writeEnd pipe
  | .changing => .bothEnds pipe

/-- Opens a stream by its name, which waits for somebody at the other end. -/
def openChannel (serial : Nat) (how : Opening) : Run Endpoint := do
  let pipe ← channel serial
  let e := endOf pipe how
  let p := ((← get).pipes[pipe]?).getD {}
  let count (isThere : Bool) (n : Nat) : Nat := if isThere then n + 1 else n
  modify fun s => { s with pipes := s.pipes.modify pipe fun p => { p with
    readers := count (e.includes (.readEnd pipe)) p.readers
    writers := count (e.includes (.writeEnd pipe)) p.writers } }
  rouse
  let s ← get
  let wake? : Option Wake := match how with
    | .changing => none
    | .reading => if s.isHeld (.writeEnd pipe) then none else some (.writers pipe p.writers)
    | .emptying | .appending =>
      if s.isHeld (.readEnd pipe) then none else some (.readers pipe p.readers)
  match wake? with
  | none => return e
  | some wake =>
    modifyOwn fun l => { l with kept := [(0, e)] :: l.kept }
    waitFor wake
    modifyOwn fun l => { l with kept := l.kept.tail }
    return e

/-- A file at a place is open from now on. -/
def newFile (place : Location) (how : Opening) : Run Endpoint :=
  modifyGet fun s =>
    let (serial, files) := s.files.numbered place
    (.file s.opened.size, { s with
      files
      opened := s.opened.push {
        place, serial
        appends := how = .appending
        reads := how = .reading || how = .changing
        writes := how ≠ .reading } })

def openPlace (place : Location) (how : Opening) : Run (Except Fault Endpoint) := do
  let node := ((← get).files.get? place).getD .sink
  match node with
  | .file _ => return .ok (← newFile place how)
  | .directory => return if how = .reading then .ok (.folder place) else .error .isDirectory
  | .sink | .link _ | .program _ => return .ok .sink
  | .zeros => return .ok .zeros
  | .full => return .ok .full
  | .channel serial => return .ok (← openChannel serial how)
  | .opened fd =>
    match ← endpoint? fd with
    | none => return .error .noEntry
    | some (.file index) =>
      match (← get).opened[index]? with
      | none => return .error .noEntry
      | some o =>
        let s ← get
        match fileOf? s o with
        | some (place, f) =>
          if how = .emptying then set { s with files := s.files.change place { f with data := [] } }
          return .ok (← newFile place how)
        | none => return .ok (.file index)
    | some (.readEnd pipe) | some (.writeEnd pipe) | some (.bothEnds pipe) =>
      return .ok (endOf pipe how)
    | some e => return .ok e

/-- Opens what a path leads to; for writing, it may be new. -/
def openPath (path : String) (how : Opening) : Run (Except Fault Endpoint) := do
  let s ← get
  let p : Path := ⟨Text.ofOctets path⟩
  if how = .reading then
    match s.files.find s.own.cwd p with
    | .ok (place, _) => openPlace place how
    | .error e => return .error e
  else
    let isNew := !(s.files.exists? s.own.cwd p)
    match s.files.openForWriting s.own.cwd p (how ≠ .emptying) with
    | .error e => return .error e
    | .ok (place, files) =>
      let files := match isNew, files.get? place with
        | true, some (.file f) =>
          files.putFile place { f with mode := Nat.land 0o666 (0o777 - Nat.land 0o777 s.own.mask) }
        | _, _ => files
      set { s with files }
      openPlace place how

/-- The lowest descriptor from a number on that is not in use. -/
def freeFd (start : Nat) : Run Nat :=
  own fun l =>
    let used := l.endpoints.map Prod.fst
    let candidates := (List.range (used.length + 1)).map (start + ·)
    (candidates.find? fun fd => !used.contains fd).getD start

def close (fd : Nat) : Run Unit := do
  modifyOwn (·.connect fd none)
  rouse

/-- Opens what a path leads to under a free descriptor. -/
def openFd (path : String) (how : Opening) : Run (Except Fault Nat) := do
  match ← openPath path how with
  | .error e => return .error e
  | .ok e =>
    let fd ← freeFd 3
    modifyOwn (·.connect fd (some e))
    return .ok fd

end Formulary.Host.Script.Run
