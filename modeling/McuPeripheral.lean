import McuPeripheral.Calls.Prog
import McuPeripheral.Calls.Session
import McuPeripheral.Calls.Ledger
import McuPeripheral.Calls.Ownership
import McuPeripheral.Calls.Threads
import McuPeripheral.Calls.Registers
import McuPeripheral.Calls.Host
import McuPeripheral.Calls.Responder
import McuPeripheral.Calls.Loop
import McuPeripheral.Calls.Vocabulary
import McuPeripheral.Signals.DeadBand
import McuPeripheral.I2c.Slave
import McuPeripheral.Spi.Registers
import McuPeripheral.Libc.Interface
import McuPeripheral.Libc.Text
import McuPeripheral.Libc.Numerals
import McuPeripheral.Libc.Arguments
import McuPeripheral.Libc.Formats
import McuPeripheral.Api
import McuPeripheral.Libc.Memory
import McuPeripheral.Utils
import McuPeripheral.AllocSizes
import McuPeripheral.ObjectBounds
import McuPeripheral.ObjectLayout
import McuPeripheral.Linuxdev.Interface
import McuPeripheral.Linuxdev.Model
import McuPeripheral.Linuxdev.Paths
import McuPeripheral.Linuxdev.Executions
import McuPeripheral.Linuxdev.Api
import McuPeripheral.Linuxdev.Kernel
import McuPeripheral.Linuxdev.Devices
import McuPeripheral.Linuxdev.GpioRuns
import McuPeripheral.Linuxdev.GpioOpen
import McuPeripheral.Linuxdev.GpioLevels
import McuPeripheral.Linuxdev.PinLifetime
import McuPeripheral.Linuxdev.Descriptors
import McuPeripheral.Linuxdev.KernelDivision
import McuPeripheral.Linuxdev.ClientThreads
import McuPeripheral.Linuxdev.DeviceNames
import McuPeripheral.Linuxdev.BusNumbers
import McuPeripheral.Linuxdev.ChipSelect
import McuPeripheral.Linuxdev.AddressScan
import McuPeripheral.Libmpsse.Interface
import McuPeripheral.Libmpsse.Model
import McuPeripheral.Libmpsse.Executions
import McuPeripheral.Libmpsse.Handles
import McuPeripheral.Calls.Monitor
import McuPeripheral.Calls.Reader
import McuPeripheral.Libmpsse.Writes
import McuPeripheral.Libmpsse.Discipline
import McuPeripheral.Libmpsse.Buffers
import McuPeripheral.Pigpiod.Interface
import McuPeripheral.Pigpiod.Model
import McuPeripheral.Pigpiod.Executions
import McuPeripheral.Backends.Opening
import McuPeripheral.Backends.Slaves
import McuPeripheral.Backends.Reading
import McuPeripheral.Backends.Ownership
import McuPeripheral.Backends.ErrorCodes
import McuPeripheral.Backends.Counts
import McuPeripheral.Backends.LinuxdevSlave
import McuPeripheral.Backends.LibmpsseSlave
import McuPeripheral.Backends.PigpiodSlave
import McuPeripheral.Examples.Tsl2561
import McuPeripheral.Examples.Tsl2561Driver
import McuPeripheral.Examples.Tsl2561Main
import McuPeripheral.Examples.Adxl345
import McuPeripheral.Examples.Adxl345Display
import McuPeripheral.Examples.Adxl345Main
import McuPeripheral.Examples.Adxl345Sensor
import McuPeripheral.Examples.GpioTool
import McuPeripheral.Examples.GpioToolLevels
import McuPeripheral.Examples.I2cDetect
