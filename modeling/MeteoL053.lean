import MeteoL053.Lib.Threads
import MeteoL053.Lib.Tokens
import MeteoL053.Hc12
import MeteoL053.Stream.Delivery
import MeteoL053.Radio.System
import MeteoL053.Radio.AtMode
import MeteoL053.Radio.Enable
import MeteoL053.Bus.Ready
import MeteoL053.Config.Intervals
import MeteoL053.Config.Saved
import MeteoL053.Bmp280.Driver
import MeteoL053.Bmp280.Thread
import MeteoL053.Bmp280.Configured
import MeteoL053.As3935
import MeteoL053.Wind
import MeteoL053.Config.Registry
import MeteoL053.Config.Schedule
import MeteoL053.Radio.Reply
import MeteoL053.Radio.Window
import MeteoL053.Radio.Reconfigure
import MeteoL053.Lib.CString
import MeteoL053.Shell
import MeteoL053.Ads1x15
import MeteoL053.Bmp280.Wait
import MeteoL053.Lib.Checksum
import MeteoL053.Stream.Checksum
import MeteoL053.Eeprom.RoundTrip
import MeteoL053.Radio.Ping
import MeteoL053.Bmp280.Measured
import MeteoL053.As3935.Masked
import MeteoL053.As3935.Thread
import MeteoL053.As3935.Strikes
import MeteoL053.As3935.Interrupts
import MeteoL053.Veml7700.Driver
import MeteoL053.Veml7700.Thread
import MeteoL053.Veml7700.Reading
import MeteoL053.Veml7700.Ranging
import MeteoL053.Bmp280.Interleaved
import MeteoL053.Bmp280.Calibration
import MeteoL053.Bmp280.Compensation
import MeteoL053.Lib.LockOrder
import MeteoL053.Bh1750
import MeteoL053.Station.Calls
import MeteoL053.Station.Analog
import MeteoL053.Station.Power
import MeteoL053.Station.Commands
import MeteoL053.Station.Threads
import MeteoL053.Station.Locks
import MeteoL053.Station.NoDeadlock
import MeteoL053.Lib.Attach
import MeteoL053.Station.Configuration
import MeteoL053.Station.Linear
import MeteoL053.Station.Frame
import MeteoL053.Station.Adc
