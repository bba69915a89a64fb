import RoboticCar.Barcode.Accounting
import RoboticCar.Barcode.Corrections
import RoboticCar.Barcode.Margins
import RoboticCar.Capture.Skipped
import RoboticCar.Diagnostics.Preview
import RoboticCar.Drive.Barcodes
import RoboticCar.Drive.Reports
import RoboticCar.Drive.Reset
import RoboticCar.Integration.Calibration
import RoboticCar.Integration.Commands
import RoboticCar.Integration.Freeze
import RoboticCar.Integration.Packable
import RoboticCar.Motion.Calibration
import RoboticCar.Motion.Encoder
import RoboticCar.Motion.Lease
import RoboticCar.Motion.Ledger
import RoboticCar.Motion.Mailbox
import RoboticCar.Motion.Progress
import RoboticCar.Mqtt.Receive
import RoboticCar.Navigation.Debounce
import RoboticCar.Navigation.Latch
import RoboticCar.Obstacle.Bounds
import RoboticCar.Obstacle.Requests
import RoboticCar.Obstacle.Shape
import RoboticCar.Operator.Button
import RoboticCar.Operator.Replies
import RoboticCar.Operator.Walkthrough
import RoboticCar.Telemetry.Laptop
import RoboticCar.Telemetry.MotionSnapshot
import RoboticCar.Telemetry.Outbox
import RoboticCar.Telemetry.Route
import RoboticCar.Terrain.Control
import RoboticCar.Wifi.Retry
