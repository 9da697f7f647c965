import UsbSerial.Bench
import UsbSerial.Proofs.Baud.Request
import UsbSerial.Proofs.Bench.Claims
import UsbSerial.Proofs.Session.Lifecycle
import UsbSerial.Proofs.Session.Memory
import UsbSerial.Proofs.Session.Mode
import UsbSerial.Proofs.Eeprom.Rebuild
import UsbSerial.Proofs.Session.Failure
import UsbSerial.Proofs.Session.Words
import UsbSerial.Proofs.Session.Provision
import UsbSerial.Proofs.Session.Rejection
import UsbSerial.Proofs.Session.History
import UsbSerial.Proofs.Session.Window
import UsbSerial.Proofs.Session.Apart
import UsbSerial.Proofs.Eeprom.Checksum
import UsbSerial.Proofs.Eeprom.Acceptance
import UsbSerial.Proofs.Sim.Search
import UsbSerial.Proofs.Session.Outcome
import UsbSerial.Proofs.Session.Port
import UsbSerial.Proofs.Eeprom.Canonical
import UsbSerial.Proofs.Eeprom.Placement
import UsbSerial.Proofs.Session.Writing
import UsbSerial.Proofs.Baud.Fractions
import UsbSerial.Proofs.Session.Rates
import UsbSerial.Proofs.Eeprom.Repetition
import UsbSerial.Proofs.Session.Erasure
import UsbSerial.Proofs.Session.Fourfold
import UsbSerial.Proofs.Sim.Discovery
import UsbSerial.Proofs.Session.Delivery
import UsbSerial.Proofs.Session.Identity
import UsbSerial.Proofs.Packet.InPlace
import UsbSerial.Proofs.Sim.Packets
import UsbSerial.Proofs.Bench.Registers
import UsbSerial.Proofs.Session.Bounds
import UsbSerial.Proofs.Baud.Checked
