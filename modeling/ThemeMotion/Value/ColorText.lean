import ThemeMotion.Decimal.Numeral
import ThemeMotion.Value.Basic
import ThemeMotion.Value.ColorName

/-!
# Colours from text

A colour is written as a keyword, as hexadecimal digits, or as a function of three
or four parameters in one of four colour models. Letters are read in lower case.
Channels are computed in doubles, held between zero and one, and narrowed last.
-/

namespace ThemeMotion.ColorText

/-- Lower case as far as it can give an ASCII letter: the Kelvin sign is the one
other character whose lower case is such a letter. -/
def lower (text : List Char) : List Char :=
  text.map fun c => if c = '\u212A' then 'k' else c.toLower

/-- The channels of a colour before they are narrowed. -/
structure Channels where
  red : Float
  green : Float
  blue : Float
  alpha : Float

/-- A number held between zero and one; NaN and negative zero stay. -/
def clamp (x : Float) : Float := if x < 0 then 0 else if 1 < x then 1 else x

/-- The colour of the channels in single precision. -/
def Channels.color (channels : Channels) : Color where
  red := narrow channels.red
  green := narrow channels.green
  blue := narrow channels.blue
  alpha := narrow channels.alpha

/-- The channels of four bytes. -/
def ofBytes (red green blue alpha : Nat) : Channels :=
  let channel (byte : Nat) : Float := doubleOfInt byte / 255
  ⟨channel red, channel green, channel blue, channel alpha⟩

/-- Two characters as a byte; the first may be a plus sign instead of a digit. -/
def pair? (high low : Char) : Option Nat :=
  if high = '+' then Decimal.hexValue? low
  else Decimal.hexValue? high >>= fun h => (Decimal.hexValue? low).map fun l => 16 * h + l

/-- One to each channel, doubled, or two to each; alpha may be left out. -/
def hexadecimal? : List Char → Option Channels
  | [r, g, b] => channels? [(r, r), (g, g), (b, b)]
  | [r, g, b, a] => channels? [(r, r), (g, g), (b, b), (a, a)]
  | [r, s, g, h, b, c] => channels? [(r, s), (g, h), (b, c)]
  | [r, s, g, h, b, c, a, z] => channels? [(r, s), (g, h), (b, c), (a, z)]
  | _ => none
where
  /-- The channels of character pairs, with an opaque alpha when three are given. -/
  channels? (pairs : List (Char × Char)) : Option Channels :=
    match pairs.map fun (high, low) => pair? high low with
    | [some r, some g, some b] => some (ofBytes r g b 255)
    | [some r, some g, some b, some a] => some (ofBytes r g b a)
    | _ => none

/-- A parameter's number and whether it was a percentage. -/
structure Amount where
  number : Float
  percent : Bool

/-- A percentage of one hundred, or a plain number of the given whole. -/
def amount? (whole : Float) (text : List Char) : Option Amount :=
  let percentage := (Text.dropEnding? ['%'] text).bind Decimal.double?
  match percentage with
  | some number => some ⟨number / 100, true⟩
  | none => (Decimal.double? text).map fun number => ⟨number / whole, false⟩

/-- A plain number or a percentage, of one. -/
def fraction? (text : List Char) : Option Amount := amount? 1 text

/-- Degrees in one radian. -/
def degreesPerRadian : Float := 180 / Float.ofBits 0x400921FB54442D18

/-- An angle in degrees. A unit that does not fit its number is tried no further, and
the last reading takes the text as a bare number. -/
def angle? (text : List Char) : Option Float :=
  let inUnit (unit : String) : Option Float :=
    (Text.dropEnding? unit.toList text).bind Decimal.double?
  inUnit "deg" <|> ((inUnit "grad").map fun turns => turns * 360 / 400) <|>
    ((inUnit "rad").map fun radians => radians * degreesPerRadian) <|>
    ((inUnit "turn").map fun turns => turns * 360) <|> Decimal.double? text

/-- An angle between zero and a full turn. -/
def normalAngle (angle : Float) : Float :=
  let rest := remainder angle 360
  if rest < 0 then rest + 360 else rest

/-- One channel of a hue, read off the hexagon of hues. -/
def hueChannel (low high hue : Float) : Float :=
  let h := remainder (remainder hue 6 + 6) 6
  if h < 1 then low + (high - low) * h
  else if h < 3 then high
  else if h < 4 then low + (high - low) * (4 - h)
  else low

/-- Red, green and blue of hue, saturation and lightness. -/
def ofLightness (hue saturation lightness : Float) : Float × Float × Float :=
  if saturation == 0 then (lightness, lightness, lightness)
  else
    let high :=
      if lightness < 0.5 then lightness * (1 + saturation)
      else lightness + saturation - lightness * saturation
    let low := 2 * lightness - high
    let h := hue / 60
    (hueChannel low high (h + 2), hueChannel low high h, hueChannel low high (h - 2))

/-- Red, green and blue of hue, saturation and value, by way of lightness. -/
def ofBrightness (hue saturation brightness : Float) : Float × Float × Float :=
  let lightness := (2 - saturation) * brightness / 2
  let inner :=
    if lightness == 0 then saturation
    else if lightness == 1 then 0
    else if lightness < 0.5 then saturation * brightness / (lightness * 2)
    else saturation * brightness / (2 - lightness * 2)
  ofLightness hue inner lightness

/-- Red, green and blue of hue, whiteness and blackness. -/
def ofWhiteness (hue white black : Float) : Float × Float × Float :=
  if 1 ≤ white + black then
    let grey := white / (white + black)
    (grey, grey, grey)
  else
    let (red, green, blue) := ofLightness hue 1 0.5
    let mix (channel : Float) : Float := channel * (1 - white - black) + white
    (mix red, mix green, mix blue)

/-- A function name with or without the letter for alpha. -/
def isModel (name : String) (text : List Char) : Bool :=
  text == name.toList || text == (name ++ "a").toList

/-- Three channels of red, green and blue, all of one form. -/
def direct? (red green blue : List Char) (alpha : Float) : Option Channels :=
  match amount? 255 red, amount? 255 green, amount? 255 blue with
  | some r, some g, some b =>
    if r.percent = g.percent ∧ g.percent = b.percent then
      some ⟨clamp r.number, clamp g.number, clamp b.number, clamp alpha⟩
    else none
  | _, _, _ => none

/-- A hue with two further amounts of one form, in a model given by its conversion. -/
def hued? (model : Float → Float → Float → Float × Float × Float)
    (hue first second : List Char) (alpha : Float) : Option Channels :=
  match angle? hue, fraction? first, fraction? second with
  | some h, some f, some s =>
    if f.percent = s.percent then
      let (red, green, blue) := model (normalAngle h) (clamp f.number) (clamp s.number)
      some ⟨clamp red, clamp green, clamp blue, alpha⟩
    else none
  | _, _, _ => none

/-- The colour of a function with its parameters. The alpha of the whiteness model
is taken as it is; all others hold it between zero and one. -/
def function? (name : List Char) (parameters : List (List Char)) : Option Channels :=
  let applied? (alpha : Float) (first second third : List Char) : Option Channels :=
    if isModel "rgb" name then direct? first second third alpha
    else if isModel "hsl" name then hued? ofLightness first second third (clamp alpha)
    else if isModel "hwb" name then hued? ofWhiteness first second third alpha
    else if isModel "hsv" name then hued? ofBrightness first second third (clamp alpha)
    else none
  match parameters with
  | [first, second, third] => applied? 1 first second third
  | [first, second, third, alpha] =>
    fraction? alpha >>= fun amount => applied? amount.number first second third
  | _ => none

/-- The name before the first opening parenthesis and the parameters up to the
closing one at the very end. Commas and slashes only separate. -/
def call? (text : List Char) : Option (List Char × List (List Char)) :=
  let name := text.takeWhile (· ≠ '(')
  match text.dropWhile (· ≠ '(') with
  | [] => none
  | _ :: inner =>
    (Text.dropEnding? [')'] inner).map fun parameters =>
      (Text.trimEnd name,
        Text.words (parameters.map fun c => if c = ',' ∨ c = '/' then ' ' else c))

/-- The colour that a text denotes. -/
def parse? (text : List Char) : Option Color :=
  let text := lower (Text.trim text)
  let channels :=
    if text = "transparent".toList then some (ofBytes 0 0 0 0)
    else match ColorName.rgb? (String.ofList text) with
      | some rgb => some (ofBytes (rgb / 65536) (rgb / 256 % 256) (rgb % 256) 255)
      | none =>
        match text with
        | '#' :: digits => hexadecimal? digits
        | _ =>
          match call? text with
          | some (name, parameters) => function? name parameters
          | none => hexadecimal? text
  channels.map Channels.color

end ThemeMotion.ColorText
