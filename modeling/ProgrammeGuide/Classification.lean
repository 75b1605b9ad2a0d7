/-!
Descriptions of the commonest kinds of streams and of the genres.
-/

namespace ProgrammeGuide.Classification

/-- What a stream is, by its content, the extension of that, and its kind. AC-3 and DTS audio are
known by their content alone. -/
def component? (content extension kind : UInt8) : Option String :=
  match content.toNat, extension.toNat, kind.toNat with
  | 0x1, 0xF, 0x01 => some "MPEG-2 video, 4:3 aspect ratio, 25 Hz"
  | 0x1, 0xF, 0x03 => some "MPEG-2 video, 16:9 aspect ratio without pan vectors, 25 Hz"
  | 0x1, 0xF, 0x04 => some "MPEG-2 video, > 16:9 aspect ratio, 25 Hz"
  | 0x1, 0xF, 0x09 => some "MPEG-2 high definition video, 4:3 aspect ratio, 25 Hz"
  | 0x1, 0xF, 0x0B => some "MPEG-2 high definition video, 16:9 aspect ratio, 25 Hz"
  | 0x2, 0xF, 0x01 => some "MPEG-1 Layer 2 audio, single mono channel"
  | 0x2, 0xF, 0x03 => some "MPEG-1 Layer 2 audio, stereo (2 channel)"
  | 0x3, 0xF, 0x01 => some "EBU Teletext subtitles"
  | 0x3, 0xF, 0x10 => some "DVB subtitles (normal) with no monitor aspect ratio criticality"
  | 0x3, 0xF, 0x20 =>
      some "DVB subtitles (for the hard of hearing) with no monitor aspect ratio criticality"
  | 0x4, _, _ => some "AC-3 audio"
  | 0x5, 0xF, 0x01 => some "H.264/AVC standard definition video, 4:3 aspect ratio, 25 Hz"
  | 0x5, 0xF, 0x03 => some "H.264/AVC standard definition video, 16:9 aspect ratio, 25 Hz"
  | 0x5, 0xF, 0x0B => some "H.264/AVC high definition video, 16:9 aspect ratio, 25 Hz"
  | 0x6, 0xF, 0x01 => some "HE AAC audio, single mono channel"
  | 0x6, 0xF, 0x03 => some "HE AAC audio, stereo"
  | 0x6, 0xF, 0x05 => some "HE AAC audio, surround sound"
  | 0x7, _, _ => some "DTS audio"
  | 0x9, 0x0, 0x00 => some "HEVC Main Profile high definition video, 50 Hz"
  | 0x9, 0x0, 0x02 => some "HEVC Main 10 Profile HDR video, 50 Hz"
  | _, _, _ => none

/-- What a genre is, by its main and sub class; an unlisted sub class goes by its main class. -/
def genre? (main sub : UInt8) : Option String :=
  match main.toNat, sub.toNat with
  | 0x1, 0x0 => some "movie/drama (general)"
  | 0x1, 0x1 => some "detective/thriller"
  | 0x1, 0x2 => some "adventure/western/war"
  | 0x1, 0x3 => some "science fiction/fantasy/horror"
  | 0x1, 0x4 => some "comedy"
  | 0x1, _ => some "movie/drama"
  | 0x2, 0x0 => some "news/current affairs (general)"
  | 0x2, 0x1 => some "news/weather report"
  | 0x2, _ => some "news/current affairs"
  | 0x3, _ => some "show/game show"
  | 0x4, 0x0 => some "sports (general)"
  | 0x4, 0x3 => some "football/soccer"
  | 0x4, _ => some "sports"
  | 0x5, _ => some "children's/youth programmes"
  | 0x6, _ => some "music/ballet/dance"
  | 0x7, _ => some "arts/culture (without music)"
  | 0x8, _ => some "social/political issues/economics"
  | 0x9, _ => some "education/science/factual topics"
  | 0xA, _ => some "leisure hobbies"
  | 0xB, _ => some "special characteristics"
  | 0xF, _ => some "user defined"
  | _, _ => none

end ProgrammeGuide.Classification
