/-
  MediaGraph.Format — media kinds and the concrete formats of each.

  A pad, a link and a format belong to one media kind. Video carries a pixel
  format, audio a sample format, and any other medium an opaque 32-bit number.
  `name` is the spelling filters and messages use; `label` is the spelling of
  descriptions.
-/

namespace MediaGraph

inductive MediaKind where
  | video
  | audio
  | other
  deriving DecidableEq, Repr

def MediaKind.name : MediaKind → String
  | video => "video"
  | audio => "audio"
  | other => "other"

/-! ## Pixel formats -/

inductive PixelFormat where
  | i420
  | nv12
  | i422
  | yuyv
  | uyvy
  | i444
  | rgb24
  | bgr24
  | rgba
  | bgra
  | gray8
  deriving DecidableEq, Repr

namespace PixelFormat

/-- Every pixel format, in order of rank. -/
def all : List PixelFormat := [i420, nv12, i422, yuyv, uyvy, i444, rgb24, bgr24, rgba, bgra, gray8]

def name : PixelFormat → String
  | i420 => "yuv420p"
  | nv12 => "nv12"
  | i422 => "yuv422p"
  | yuyv => "yuyv422"
  | uyvy => "uyvy422"
  | i444 => "yuv444p"
  | rgb24 => "rgb24"
  | bgr24 => "bgr24"
  | rgba => "rgba"
  | bgra => "bgra"
  | gray8 => "gray"

def label : PixelFormat → String
  | i420 => "I420"
  | nv12 => "Nv12"
  | i422 => "I422"
  | yuyv => "Yuyv"
  | uyvy => "Uyvy"
  | i444 => "I444"
  | rgb24 => "Rgb24"
  | bgr24 => "Bgr24"
  | rgba => "Rgba"
  | bgra => "Bgra"
  | gray8 => "Gray8"

def rank (p : PixelFormat) : Nat := all.idxOf p

theorem mem_all (p : PixelFormat) : p ∈ all := by cases p <;> decide

theorem all_nodup : all.Nodup := by decide

end PixelFormat

/-! ## Sample formats -/

inductive SampleFormat where
  | u8
  | s16
  | s32
  | f32
  | f64
  deriving DecidableEq, Repr

namespace SampleFormat

/-- Every sample format, in order of rank. -/
def all : List SampleFormat := [u8, s16, s32, f32, f64]

def name : SampleFormat → String
  | u8 => "u8"
  | s16 => "s16"
  | s32 => "s32"
  | f32 => "flt"
  | f64 => "dbl"

def label : SampleFormat → String
  | u8 => "U8"
  | s16 => "S16"
  | s32 => "S32"
  | f32 => "F32"
  | f64 => "F64"

def rank (f : SampleFormat) : Nat := all.idxOf f

theorem mem_all (f : SampleFormat) : f ∈ all := by cases f <;> decide

theorem all_nodup : all.Nodup := by decide

end SampleFormat

/-! ## Formats -/

inductive Format where
  | video (pixels : PixelFormat)
  | audio (samples : SampleFormat)
  | data (id : UInt32)
  deriving DecidableEq, Repr

namespace Format

def kind : Format → MediaKind
  | video _ => .video
  | audio _ => .audio
  | data _ => .other

def name : Format → String
  | video p => p.name
  | audio f => f.name
  | data id => s!"data:{id}"

def label : Format → String
  | video p => s!"Video({p.label})"
  | audio f => s!"Audio({f.label})"
  | data id => s!"Data({id})"

/-- Only two pixel formats or two sample formats are ordered: by rank. -/
def compare? : Format → Format → Option Ordering
  | video p, video q => some (compare p.rank q.rank)
  | audio f, audio g => some (compare f.rank g.rank)
  | _, _ => none

end Format

/-- The pixel format and the sample format taken when nothing else is said. -/
def PixelFormat.standard : PixelFormat := i420

@[inherit_doc PixelFormat.standard]
def SampleFormat.standard : SampleFormat := s16

end MediaGraph
