/-
  MediaGraph.Filter.Builtin — the filters a graph can always count on.

  `scale` and `resample` convert: they take any format of their kind and produce
  any. `null` passes its input through, or ends it. `nullSource` and
  `nullAudioSource` produce nothing, at a size or a rate of their arguments.

  Arguments are fields between colons. Missing and empty arguments change
  nothing. A field is stored as soon as it is read, so arguments that turn out
  bad later on leave the fields before the bad one behind:
  - `scale`: `width:height[:flags]`, where the flags are the rest of the text;
  - `resample`: `rate`;
  - `nullSource`: `width:height`, cut at the first colon;
  - `nullAudioSource`: `rate[:channels]`, cut at the first colon.
-/

import MediaGraph.Filter.Declaration
import MediaGraph.Link
import MediaGraph.Text.Numeral

namespace MediaGraph

/-! ## Arguments -/

inductive ArgumentError where
  | notNumber (filter field value : String)
  | noHeight (filter args : String)
  deriving DecidableEq, Repr

def ArgumentError.report : ArgumentError → Report
  | notNumber filter field value => ⟨.filter filter, s!"invalid {field} '{value}'"⟩
  | noHeight filter args => ⟨.filter filter, s!"expected width:height, got '{args}'"⟩

/-- The text before the first colon, and the text after it if there is one. -/
def cutColon (s : String) : String × Option String :=
  (String.ofList (s.toList.takeWhile (· ≠ ':')),
    match s.toList.dropWhile (· ≠ ':') with
    | [] => none
    | _ :: rest => some (String.ofList rest))

def readNumber (filter field value : String) : Except ArgumentError UInt32 :=
  match Text.numeral? value.toList with
  | some n => .ok n
  | none => .error (.notNumber filter field value)

/-- Reading arguments: the parameters as far as they were read, and what went wrong. -/
abbrev Reading (α : Type) := α × Except ArgumentError Unit

def Reading.map {α β : Type} (f : α → β) (r : Reading α) : Reading β := (f r.1, r.2)

/-! ## Parameters -/

def scaleType : String := "scale"

def resampleType : String := "resample"

structure Scale where
  width : UInt32 := 0
  height : UInt32 := 0
  flags : Option String := none
  deriving DecidableEq, Repr

structure Resample where
  sampleRate : UInt32 := 0
  deriving DecidableEq, Repr

structure NullSource where
  width : UInt32 := 320
  height : UInt32 := 240
  deriving DecidableEq, Repr

structure NullAudioSource where
  sampleRate : UInt32 := 44100
  channels : UInt32 := 2
  deriving DecidableEq, Repr

def Scale.read (p : Scale) (args : String) : Reading Scale :=
  match readNumber scaleType "width" (cutColon args).1 with
  | .error e => (p, .error e)
  | .ok width =>
    match (cutColon args).2 with
    | none => ({ p with width }, .error (.noHeight scaleType args))
    | some rest =>
      match readNumber scaleType "height" (cutColon rest).1 with
      | .error e => ({ p with width }, .error e)
      | .ok height => ({ width, height, flags := (cutColon rest).2.filter (· ≠ "") }, .ok ())

def Resample.read (p : Resample) (args : String) : Reading Resample :=
  match readNumber resampleType "sample rate" args with
  | .error e => (p, .error e)
  | .ok sampleRate => ({ sampleRate }, .ok ())

def NullSource.read (p : NullSource) (args : String) : Reading NullSource :=
  match cutColon args with
  | (_, none) => (p, .error (.noHeight "nullsrc" args))
  | (w, some h) =>
    match readNumber "nullsrc" "width" w with
    | .error e => (p, .error e)
    | .ok width =>
      match readNumber "nullsrc" "height" h with
      | .error e => ({ p with width }, .error e)
      | .ok height => ({ width, height }, .ok ())

def NullAudioSource.read (p : NullAudioSource) (args : String) : Reading NullAudioSource :=
  match readNumber "anullsrc" "sample rate" (cutColon args).1 with
  | .error e => (p, .error e)
  | .ok sampleRate =>
    match (cutColon args).2 with
    | none => ({ p with sampleRate }, .ok ())
    | some c =>
      match readNumber "anullsrc" "channel count" c with
      | .error e => ({ p with sampleRate }, .error e)
      | .ok channels => ({ sampleRate, channels }, .ok ())

/-! ## The filters -/

inductive Builtin where
  | scale (p : Scale)
  | resample (p : Resample)
  | null
  | nullSource (p : NullSource)
  | nullAudioSource (p : NullAudioSource)
  deriving DecidableEq, Repr

namespace Builtin

/-- Read arguments that are neither missing nor empty. -/
def read : Builtin → String → Reading Builtin
  | scale p, args => (p.read args).map scale
  | resample p, args => (p.read args).map resample
  | null, _ => (null, .ok ())
  | nullSource p, args => (p.read args).map nullSource
  | nullAudioSource p, args => (p.read args).map nullAudioSource

def init (b : Builtin) : Option String → Reading Builtin
  | none => (b, .ok ())
  | some args => if args = "" then (b, .ok ()) else b.read args

/-- The kind a converter converts; its input and output declare all of it, each on its own. -/
def converts : Builtin → Option MediaKind
  | scale _ => some .video
  | resample _ => some .audio
  | _ => none

/-- The properties of an output link, from those it has and those of the inputs. -/
def configOutput (b : Builtin) (props : LinkProps) (inputs : List LinkProps) : LinkProps :=
  match b with
  | scale p =>
    let input := inputs.head?.getD {}
    { props with
      width := if p.width = 0 then input.width else p.width
      height := if p.height = 0 then input.height else p.height }
  | resample p =>
    let props := props.inheritFirst inputs
    if p.sampleRate = 0 then props else { props with sampleRate := p.sampleRate }
  | null => props.inheritFirst inputs
  | nullSource p => { props with width := p.width, height := p.height }
  | nullAudioSource p => { props with sampleRate := p.sampleRate, channels := p.channels }

end Builtin

end MediaGraph
