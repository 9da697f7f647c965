import UsbSerial.BitMode

namespace UsbSerial

inductive State
  | closed
  | opened (mode : BitMode)
  | destroyed
  deriving DecidableEq, Repr

namespace State

def isOpened : State → Bool
  | opened _ => true
  | _ => false

def drivesPins : State → Bool
  | opened mode => mode.drivesPins
  | _ => false

def text : State → String
  | closed => "closed"
  | opened .reset => "open"
  | opened mode => s!"open in {mode.name} mode"
  | destroyed => "freed"

def name : State → String
  | closed => "Closed"
  | opened mode => s!"Open({mode.name})"
  | destroyed => "Freed"

end State

inductive Operation
  | findAll
  | openDevice
  | close
  | destroy
  | setChannel
  | reset
  | purgeReceive
  | purgeTransmit
  | setBaudRate
  | setLineFormat
  | setLatency
  | latency
  | setHandshake
  | setDtr
  | setRts
  | setDtrRts
  | setEventCharacter
  | setErrorCharacter
  | modemStatus
  | write
  | read
  | enableBitBang
  | writeBitBang
  | disableBitBang
  | setBitMode
  | readPins
  | readChipId
  | readWord
  | writeWord
  | readEeprom
  | writeEeprom
  | eraseEeprom
  deriving DecidableEq, Repr

def Operation.name : Operation → String
  | findAll => "find_all"
  | openDevice => "open"
  | close => "close"
  | destroy => "destroy"
  | setChannel => "set_interface"
  | reset => "usb_reset"
  | purgeReceive => "purge_rx_buffer"
  | purgeTransmit => "purge_tx_buffer"
  | setBaudRate => "set_baudrate"
  | setLineFormat => "set_line_property"
  | setLatency => "set_latency_timer"
  | latency => "latency_timer"
  | setHandshake => "set_flow_control"
  | setDtr => "set_dtr"
  | setRts => "set_rts"
  | setDtrRts => "set_dtr_rts"
  | setEventCharacter => "set_event_char"
  | setErrorCharacter => "set_error_char"
  | modemStatus => "poll_modem_status"
  | write => "write_data"
  | read => "read_data"
  | enableBitBang => "enable_bitbang"
  | writeBitBang => "write_bitbang"
  | disableBitBang => "disable_bitbang"
  | setBitMode => "set_bitmode"
  | readPins => "read_pins"
  | readChipId => "read_chip_id"
  | readWord => "read_eeprom_location"
  | writeWord => "write_eeprom_location"
  | readEeprom => "read_eeprom"
  | writeEeprom => "write_eeprom"
  | eraseEeprom => "erase_eeprom"

end UsbSerial
