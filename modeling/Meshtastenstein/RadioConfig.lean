import Meshtastenstein.Constants
import Meshtastenstein.Lib.Words
/-!
# Modem presets and regions
-/

namespace Meshtastenstein

open Lib

/-- The hash of a name, by which its frequency slot is chosen. -/
def djb2 (name : Text) : UInt32 := name.foldl (fun h byte => h * 33 + byte.toUInt32) 5381

structure ModemConfig where
  spreadingFactor : UInt8
  bandwidthHz : UInt32
  /-- The denominator: 5 for 4/5 to 8 for 4/8. -/
  codingRate : UInt8
deriving DecidableEq

inductive ModemPreset
  | longFast
  | longSlow
  | veryLongSlow
  | mediumSlow
  | mediumFast
  | shortSlow
  | shortFast
  | longModerate
  | shortTurbo
  | longTurbo
  | liteFast
  | liteSlow
  | narrowFast
  | narrowSlow
  | tinyFast
  | tinySlow
  | mediumTurbo
deriving DecidableEq

namespace ModemPreset

def spreadingFactor : ModemPreset → UInt8
  | shortFast | shortTurbo | narrowFast | tinyFast => 7
  | shortSlow | narrowSlow | tinySlow => 8
  | mediumFast | liteFast | mediumTurbo => 9
  | liteSlow => 10
  | longSlow | veryLongSlow => 12
  | _ => 11

def bandwidthHz : ModemPreset → UInt32
  | veryLongSlow | narrowFast | narrowSlow => 62500
  | longSlow | longModerate | liteFast | liteSlow => 125000
  | shortTurbo | longTurbo | mediumTurbo => 500000
  | tinyFast | tinySlow => 15600
  | _ => 250000

def codingRate : ModemPreset → UInt8
  | longSlow | veryLongSlow | mediumSlow | longModerate => 8
  | narrowFast | narrowSlow | tinySlow => 6
  | tinyFast | mediumTurbo => 5
  | _ => 5

def config (preset : ModemPreset) : ModemConfig where
  spreadingFactor := preset.spreadingFactor
  bandwidthHz := preset.bandwidthHz
  codingRate := preset.codingRate

def displayName : ModemPreset → Text
  | longFast => utf8 "LongFast"
  | longSlow => utf8 "LongSlow"
  | veryLongSlow => utf8 "VeryLongSlow"
  | mediumSlow => utf8 "MediumSlow"
  | mediumFast => utf8 "MediumFast"
  | shortSlow => utf8 "ShortSlow"
  | shortFast => utf8 "ShortFast"
  | longModerate => utf8 "LongMod"
  | shortTurbo => utf8 "ShortTurbo"
  | longTurbo => utf8 "LongTurbo"
  | liteFast => utf8 "LiteFast"
  | liteSlow => utf8 "LiteSlow"
  | narrowFast => utf8 "NarrowFast"
  | narrowSlow => utf8 "NarrowSlow"
  | tinyFast => utf8 "TinyFast"
  | tinySlow => utf8 "TinySlow"
  | mediumTurbo => utf8 "MediumTurbo"

end ModemPreset

/-- `LoRaConfig.RegionCode`. -/
inductive Region
  | unset
  | us
  | eu433
  | eu868
  | cn
  | jp
  | anz
  | kr
  | tw
  | ru
  | «in»
  | nz865
  | th
  | lora24
  | ua433
  | ua868
  | my433
  | my919
  | sg923
  | ph433
  | ph868
  | ph915
  | anz433
  | kz433
  | kz863
  | np865
  | br902
  | eu866
  | eu874
  | eu917
  | euN868
  | itu12m
  | itu22m
  | itu32m
  | itu2125cm
  | itu170cm
  | itu270cm
  | itu370cm
deriving DecidableEq

/-- The share of time a region allows for transmission, in percent. -/
def Region.dutyCyclePct : Region → ℚ
  | eu433 | th | ua433 | euN868 => 10
  | eu868 | ua868 | eu874 | eu917 => 1
  | eu866 => 5 / 2
  | _ => 100

namespace Region

def freqStartHz : Region → UInt32
  | us | br902 | unset => 902000000
  | eu433 | ua433 | my433 | ph433 => 433000000
  | eu868 | euN868 => 869400000
  | cn => 470000000
  | jp => 920500000
  | anz => 915000000
  | anz433 => 433050000
  | ru => 868700000
  | kr | tw | th => 920000000
  | «in» | np865 => 865000000
  | nz865 => 864000000
  | ua868 | ph868 => 868000000
  | my919 => 919000000
  | sg923 | eu917 => 917000000
  | ph915 => 915000000
  | kz433 => 433075000
  | kz863 => 863000000
  | lora24 => 2400000000
  | eu866 => 865600000
  | eu874 => 874000000
  | itu12m | itu22m | itu32m => 144000000
  | itu2125cm => 220000000
  | itu170cm | itu370cm => 430000000
  | itu270cm => 420000000

def freqEndHz : Region → UInt32
  | us | anz | unset => 928000000
  | eu433 => 434000000
  | eu868 | euN868 => 869650000
  | cn => 510000000
  | jp => 923500000
  | anz433 => 434790000
  | ru => 869200000
  | kr => 923000000
  | tw | th => 925000000
  | «in» => 867000000
  | nz865 | kz863 | np865 => 868000000
  | ua433 | ph433 => 434700000
  | ua868 => 868600000
  | my433 => 435000000
  | my919 => 924000000
  | sg923 => 925000000
  | ph868 => 869400000
  | ph915 | eu917 => 918000000
  | kz433 => 434775000
  | br902 => 907500000
  | lora24 => 2483500000
  | eu866 => 867600000
  | eu874 => 874400000
  | itu12m => 146000000
  | itu22m | itu32m => 148000000
  | itu2125cm => 225000000
  | itu170cm => 440000000
  | itu270cm | itu370cm => 450000000

variable (mode : Overflow) (region : Region)

def bandHz : Option UInt32 := mode.sub region.freqEndHz region.freqStartHz

def defaultChannelIndex (preset : ModemPreset) : Option UInt32 :=
  let h := djb2 preset.displayName
  let bw := preset.config.bandwidthHz
  if bw = 0 then some 0
  else do
    let numCh ← Overflow.div (← region.bandHz mode) bw
    if numCh = 0 then some 0 else Overflow.rem h numCh

def numChannels (bandwidthHz : UInt32) : Option UInt32 :=
  if bandwidthHz = 0 then some 0
  else do Overflow.div (← region.bandHz mode) bandwidthHz

def frequencyHz (bandwidthHz channelIndex : UInt32) : Option UInt32 := do
  let numCh ← region.numChannels mode bandwidthHz
  if numCh = 0 then some region.freqStartHz
  else
    let ch ← Overflow.rem channelIndex numCh
    mode.add (← mode.add region.freqStartHz (← Overflow.div bandwidthHz 2))
      (← mode.mul ch bandwidthHz)

end Region

/-- The bandwidth in Hz of a `LoRaConfig.bandwidth` code. -/
def bwCodeToHz (code : UInt16) : UInt32 :=
  if code = 31 then 31250
  else if code = 62 then 62500
  else if code = 200 then 203125
  else if code = 400 then 406250
  else if code = 800 then 812500
  else if code = 1600 then 1625000
  else code.toUInt32 * 1000

def bwHzToCode (bandwidthHz : UInt32) : UInt16 :=
  if bandwidthHz = 31250 then 31
  else if bandwidthHz = 62500 then 62
  else if bandwidthHz = 203125 then 200
  else if bandwidthHz = 406250 then 400
  else if bandwidthHz = 812500 then 800
  else if bandwidthHz = 1625000 then 1600
  else (bandwidthHz / 1000).toUInt16

end Meshtastenstein
